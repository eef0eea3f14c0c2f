import LoadPlan.Plan.Endpoint
import LoadPlan.Plan.Parts
import LoadPlan.Scenario.Options
import LoadPlan.Settings
import LoadPlan.Text.Blank

/-!
# Compiling a test

A test becomes one plan, each scenario a thread group that ends with a listener, and each request a
sampler that owns its headers and assertions. Entries that are not valid are left out, and what
cannot be expressed is left out with a notice.
-/

namespace LoadPlan.Plan

/-- The name of the listener at the end of each thread group. -/
def listenerName : String := "API Backend Listener"

/-- The entries that are valid, in order. -/
def validOnly (kvs : List KeyValue) : List KeyValue :=
  kvs.filter KeyValue.isValid

/-- A part of a plan with its counts. -/
structure Counted (α : Type) where
  part : α
  stats : Stats

/-- The headers of a request, if there are valid ones. -/
def headersOf (r : Request) : Counted (List TestElement) :=
  let headers := validOnly r.headers
  if headers.isEmpty then ⟨[], {}⟩
  else
    let owner := if r.name.isTruthy then r.name.display else ""
    ⟨[headerManager (.text (Text.trimLeft (owner ++ " Headers"))) headers],
      { headerManagers := 1 }⟩

/-- The properties of a sampler that hold what the request sends: arguments for a GET request, else
the body. -/
def payloadOf (r : Request) : Logged (Counted (List Element)) := do
  if !r.method.isTruthy then
    note (.noMethod r.name)
    return ⟨[], {}⟩
  if ← r.isGet then
    let kvs := validOnly r.parameters
    if kvs.isEmpty then return ⟨[], {}⟩
    return ⟨[arguments kvs (.bool true)], { arguments := 1 }⟩
  match r.body with
  | none =>
    note (.noBody r.name)
    return ⟨[], {}⟩
  | some body =>
    if body.isKeyValue then
      return ⟨[rawBodyProp (.bool false), arguments (validOnly body.kvs) (.bool true)],
        { bodies := 1 }⟩
    return ⟨[rawBodyProp (.bool true), arguments [⟨.text "", body.raw⟩] (.bool false)],
      { bodies := 1 }⟩

/-- The test type of an assertion that a whole expression matches. -/
def matchType : Int := 1

/-- The assertions on regular expressions: those that are valid and look at a known part of the
response. -/
def regexAssertions (request : Value) :
    List RegexAssertion → Logged (Counted (List TestElement))
  | [] => return ⟨[], {}⟩
  | r :: rest => do
    if !r.isValid then regexAssertions request rest
    else
      match Subject.ofValue? r.subject with
      | none =>
        note (.unsupportedSubject r.subject request)
        regexAssertions request rest
      | some subject =>
        let assertion :=
          responseAssertion (fieldOf subject) r.description matchType r.expression .null
        let others ← regexAssertions request rest
        return ⟨assertion :: others.part, { assertions := 1 } + others.stats⟩

/-- The assertion on the duration, if there is a valid one. -/
def durationOf (a : Assertions) : Counted (List TestElement) :=
  match a.duration with
  | some t =>
    if t.isValid then
      ⟨[durationAssertion (.text "Response Time") t.value], { durationAssertions := 1 }⟩
    else ⟨[], {}⟩
  | none => ⟨[], {}⟩

/-- The assertions of a request. -/
def assertionsOf (r : Request) : Logged (Counted (List TestElement)) := do
  match r.assertions with
  | none => return ⟨[], {}⟩
  | some a =>
    let regex ← regexAssertions r.name a.regex
    let duration := durationOf a
    return ⟨regex.part ++ duration.part, regex.stats + duration.stats⟩

/-- The sampler of an endpoint, without what its request sends. -/
def samplerOf (name : Value) (e : Endpoint) : Except Fault TestElement :=
  match e.address with
  | none => sampler name .null .null .null .null e.method
  | some a =>
    sampler name (.text a.hostname) (.text a.port) (.text a.protocol) (.text a.pathname) e.method

/-- A sampler with what its request sends, around its headers and assertions. -/
def requestOf (bare : TestElement) (headers : Counted (List TestElement))
    (payload : Counted (List Element)) (assertions : Counted (List TestElement)) :
    Counted TestElement :=
  let sampled : Stats := { samplers := 1 }
  ⟨⟨bare.element.addAll payload.part, headers.part ++ assertions.part⟩,
    sampled + headers.stats + payload.stats + assertions.stats⟩

/-- Compiles a request. -/
def compileRequest (r : Request) : Logged (Counted TestElement) := do
  let endpoint ← Endpoint.ofRequest r
  let bare ← samplerOf r.name endpoint
  let headers := headersOf r
  let payload ← payloadOf r
  let assertions ← assertionsOf r
  return requestOf bare headers payload assertions

/-- Parts in order with their counts together. -/
def collect {α : Type} (parts : List (Counted α)) : Counted (List α) :=
  ⟨parts.map (·.part), (parts.map (·.stats)).foldl (· + ·) {}⟩

/-- A thread group of a scenario around its samplers. -/
def groupOf (settings : Settings) (name : Value) (samplers : Counted (List TestElement)) :
    Counted TestElement :=
  let group := threadGroup name settings.threads settings.rampTime settings.loops
    settings.onSampleError
  let listener := backendListener (.text listenerName) settings.listener
  ⟨⟨group.element, samplers.part ++ [listener]⟩, samplers.stats + { threadGroups := 1 }⟩

/-- Compiles a scenario. -/
def compileScenario (settings : Settings) (s : Scenario) : Logged (Counted TestElement) := do
  let samplers ← s.requests.mapM compileRequest
  return groupOf settings s.name (collect samplers)

/-- A plan of a test around its thread groups, with a notice of what it holds. -/
def planOf (settings : Settings) (name : Value) (groups : Counted (List TestElement)) :
    Logged (Counted Document) := do
  let root := testPlan name (.text "")
  note (.compiled name groups.stats)
  return ⟨document settings.version [⟨root.element, groups.part⟩], groups.stats⟩

/-- Compiles a test. -/
def compile (settings : Settings) (t : Test) : Logged (Counted Document) := do
  let groups ← t.scenarios.mapM (compileScenario settings)
  planOf settings t.name (collect groups)

/-- The text of the plan of a test. -/
def toXml (settings : Settings) (t : Test) : Logged String := do
  let plan ← compile settings t
  plan.part.render

/-- The test that options describe. -/
def testOf (options : Value) : Logged Test :=
  match options with
  | .mapping _ => (Test.ofOptions options).logged 1
  | v => throw (.notATest v.kind)

/-- The name of the file for a test. -/
def fileName (t : Test) : String :=
  t.name.display ++ ".jmx"

end LoadPlan.Plan
