import LoadPlan.Lint.Issue
import LoadPlan.Plan.Endpoint

/-!
# Finding the issues of a test

Walks a test in the order in which it is compiled and finds what a compilation will leave out or
degrade. Nothing is changed.
-/

namespace LoadPlan.Lint

/-- The indices, from 1, of the entries that are not valid. -/
def dropped (list : EntryList) (kvs : List KeyValue) : List Finding :=
  (kvs.zipIdx 1).filterMap fun (kv, i) => if kv.isValid then none else some (.droppedEntry list i)

/-- What is found about the URL of a request. -/
def urlFindings (r : Request) : Logged (List Finding) := do
  if !r.url.isTruthy then return [.noUrl]
  let endpoint ← Endpoint.ofRequest r
  if endpoint.isEmpty then return [.malformedUrl r.url]
  let get ← r.isGet
  return if !get && r.url.display.toList.contains '?' then [.queryAppended r.method] else []

/-- Whether a value can be looked up among texts; lists and mappings cannot. -/
def isLookupKey : Value → Bool
  | .list _ => false
  | .mapping _ => false
  | _ => true

/-- Whether a value is one of some texts. -/
def isOneOf (texts : List String) (v : Value) : Except Fault Bool :=
  if isLookupKey v then .ok (texts.any v.isText) else .error .wrongKind

/-- What is found about the type of a body. -/
def bodyTypeFindings (type : Value) : Except Fault (List Finding) := do
  if type.isNull then return []
  return if ← isOneOf bodyTypes type then [] else [.unknownBodyType type]

/-- What is found about the body of a request that is not a GET. -/
def bodyFindings (r : Request) : Except Fault (List Finding) := do
  match r.body with
  | none => return []
  | some body =>
    let typeFindings ← bodyTypeFindings body.type
    if body.isKeyValue then
      let empty := if body.isValid then [] else [.noValidEntries]
      return typeFindings ++ dropped .body body.kvs ++ empty
    return typeFindings ++ (if body.isValid then [] else [.emptyRawBody r.method])

/-- The names of the parts of a response that assertions can look at. -/
def subjectNames : List String :=
  [Subject.responseCode, .responseHeaders, .responseData].map Subject.name

/-- What is found about an assertion on a regular expression with an index. The subject is looked up
only if the assertion is valid. -/
def regexFinding (index : Nat) (r : RegexAssertion) : Except Fault (List Finding) := do
  if !r.isValid then return [.incompleteRegex index]
  return if ← isOneOf subjectNames r.subject then [] else [.unsupportedSubject index r.subject]

/-- What is found about assertions on regular expressions, the first of which has an index. -/
def regexFindings (index : Nat) : List RegexAssertion → Except Fault (List Finding)
  | [] => return []
  | r :: rest => do
    let here ← regexFinding index r
    let others ← regexFindings (index + 1) rest
    return here ++ others

/-- What is found about the duration of a response. -/
def durationFindings : Option ResponseTime → List Finding
  | some t => if !t.value.isNull && !t.isValid then [.noThreshold] else []
  | none => []

/-- What is found about the assertions of a request. -/
def assertionFindings (r : Request) : Except Fault (List Finding) := do
  match r.assertions with
  | none => return []
  | some a =>
    let regex ← regexFindings 1 a.regex
    let text := if a.text.isEmpty then [] else [.textAssertions a.text.length]
    return regex ++ text ++ durationFindings a.duration

/-- What is found about what a request sends. -/
def payloadFindings (r : Request) : Except Fault (List Finding) := do
  if ← r.isGet then return dropped .parameters r.parameters
  let ignored := if r.parameters.isEmpty then [] else [.parametersIgnored r.method]
  return ignored ++ (← bodyFindings r)

/-- What is found about a request. -/
def requestFindings (r : Request) : Logged (List Finding) := do
  let url ← urlFindings r
  let payload ← payloadFindings r
  let assertions ← assertionFindings r
  return url ++ dropped .headers r.headers ++ payload ++ assertions

/-- What a scenario is called in a location. -/
def scenarioLabel (name id : Value) : Value :=
  name.orElse (.text ("Scenario #" ++ id.display))

/-- The location of a request. -/
def requestLocation (scenario : Value) (r : Request) : Value :=
  .text (scenario.display ++ " > " ++
    (if r.name.isTruthy then r.name.display else "Request #" ++ r.id.display))

/-- The issues of a request in a scenario with a label. -/
def requestIssues (label : Value) (r : Request) : Logged (List Issue) := do
  let findings ← requestFindings r
  return findings.map (⟨·, requestLocation label r⟩)

/-- The issues of a scenario. -/
def scenarioIssues (s : Scenario) : Logged (List Issue) := do
  let label := scenarioLabel s.name s.id
  let empty := if s.requests.isEmpty then [⟨.noRequests, label⟩] else []
  let issues ← s.requests.mapM (requestIssues label)
  return empty ++ issues.flatten

/-- The issues of a test. -/
def check (t : Test) : Logged Report := do
  let issues ← t.scenarios.mapM scenarioIssues
  return { path := none, testName := t.name, issues := issues.flatten }

/-- The report on a file that cannot be loaded. -/
def failed (path : String) (finding : Finding) : Report where
  path := some path
  testName := .null
  issues := [⟨finding, .null⟩]

end LoadPlan.Lint
