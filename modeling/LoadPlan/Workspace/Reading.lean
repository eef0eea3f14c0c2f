import LoadPlan.Lint.Check
import LoadPlan.Plan.Compile
import LoadPlan.Workspace.View

/-!
# Compiling and checking objects

A test that has been edited by hand need not be well formed: a list may be missing, or an entity of
the wrong kind. Compiling and checking read from it only what they need, in the order in which they
need it, and the first thing that cannot be used is the fault. Each part that has been read is
compiled or checked like that of any request.
-/

namespace LoadPlan.Workspace

namespace Heap

/-- The fields of a datum that must be an entity of a kind, as `needed` is looked up in it. -/
def entity (h : Heap) (kind : Kind) (needed : String) (d : Datum) :
    Except Fault (List (String × Datum)) :=
  match h.entity? kind d with
  | some fields => .ok fields
  | none => .error (.noMember (h.kindName d) needed)

/-- The value of a field of an entity. -/
def scalar (h : Heap) (fields : List (String × Datum)) (name : String) : Value :=
  h.value (part fields name)

/-- A name and a value. -/
def keyValue (h : Heap) (d : Datum) : Except Fault KeyValue := do
  let o ← h.entity .keyValue "is_valid" d
  return { name := h.scalar o "name", value := h.scalar o "value" }

/-- An assertion on a regular expression. -/
def regex (h : Heap) (d : Datum) : Except Fault RegexAssertion := do
  let o ← h.entity .regex "is_valid" d
  return { subject := h.scalar o "subject", expression := h.scalar o "expression",
           description := h.scalar o "description" }

/-- A greatest duration, if there is one. -/
def duration (h : Heap) (d : Datum) : Except Fault (Option ResponseTime) := do
  if d.isNull then return none
  let o ← h.entity .responseTime "value" d
  return some { value := h.scalar o "value" }

/-- What is used of a body of a type: its entries, which are read then, or its raw text. -/
def bodyOf (h : Heap) (o : List (String × Datum)) (type : Value)
    (kvs : Except Fault (List KeyValue)) : Except Fault Body := do
  if h.isKeyValue o then return { type, kvs := ← kvs }
  return { type, raw := h.scalar o "raw" }

/-- The fields of a request that hold values. -/
def requestHead (h : Heap) (o : List (String × Datum)) : Request where
  id := h.scalar o "id"
  name := h.scalar o "name"
  url := h.scalar o "url"
  method := h.scalar o "method"

/-! ## For compiling -/

/-- The entities of a list, of which there are none if the list is not given. -/
def listed {α : Type} (h : Heap) (read : Datum → Except Fault α) (d : Datum) :
    Except Fault (List α) := do
  if !h.isTruthy d then return []
  (← h.iterate d).mapM read

/-- The body that is compiled. -/
def bodyToCompile (h : Heap) (d : Datum) : Except Fault (Option Body) := do
  if d.isNull then return none
  let o ← h.entity .body "is_kv" d
  return some (← h.bodyOf o (h.scalar o "type") (h.listed h.keyValue (part o "kvs")))

/-- The properties of a sampler that hold what a request sends. Of parameters and body, only what is
sent is read. -/
def payloadOf (h : Heap) (o : List (String × Datum)) (head : Request) :
    Logged (Plan.Counted (List Plan.Element)) := do
  if !head.method.isTruthy then Plan.payloadOf head
  else if ← h.isGet o then
    Plan.payloadOf { head with parameters := ← h.listed h.keyValue (part o "parameters") }
  else Plan.payloadOf { head with body := ← h.bodyToCompile (part o "body") }

/-- The assertions of a request with a name. -/
def assertionsOf (h : Heap) (request : Value) (d : Datum) :
    Logged (Plan.Counted (List Plan.TestElement)) := do
  if d.isNull then return ⟨[], {}⟩
  let o ← h.entity .assertions "regex" d
  let regex ← Plan.regexAssertions request (← h.listed h.regex (part o "regex"))
  let duration := Plan.durationOf { duration := ← h.duration (part o "duration") }
  return ⟨regex.part ++ duration.part, regex.stats + duration.stats⟩

/-- Compiles a request. -/
def compileRequest (h : Heap) (d : Datum) : Logged (Plan.Counted Plan.TestElement) := do
  let o ← h.entity .request "method" d
  let head := h.requestHead o
  let endpoint ← Endpoint.ofRequest head
  let bare ← Plan.samplerOf head.name endpoint
  let headers ← h.listed h.keyValue (part o "headers")
  let payload ← h.payloadOf o head
  let assertions ← h.assertionsOf head.name (part o "assertions")
  return Plan.requestOf bare (Plan.headersOf { head with headers }) payload assertions

/-- Compiles a scenario. -/
def compileScenario (h : Heap) (settings : Settings) (d : Datum) :
    Logged (Plan.Counted Plan.TestElement) := do
  let o ← h.entity .scenario "requests" d
  let requests ← h.iterate (part o "requests")
  let samplers ← requests.mapM h.compileRequest
  return Plan.groupOf settings (h.scalar o "name") (Plan.collect samplers)

/-- The text of the plan of a test. -/
def toXml (h : Heap) (settings : Settings) (d : Datum) : Logged String := do
  let o ← h.entity .test "scenario_definition" d
  let scenarios ← h.iterate (part o "scenario_definition")
  let groups ← scenarios.mapM (h.compileScenario settings)
  let plan ← Plan.planOf settings (h.scalar o "name") (Plan.collect groups)
  plan.part.render

/-! ## For checking -/

/-- The entities of a list that must be there. -/
def walked {α : Type} (h : Heap) (read : Datum → Except Fault α) (d : Datum) :
    Except Fault (List α) := do
  (← h.iterate d).mapM read

/-- The number of data in what has a length. -/
def length (h : Heap) (d : Datum) : Except Fault Nat := do
  return (← h.iterate d).length

/-- A value that is looked up among texts, which an entity cannot be. -/
def lookupKey (h : Heap) (d : Datum) : Except Fault Value :=
  match h.object? d with
  | some (.entity ..) => .error .wrongKind
  | _ => .ok (h.value d)

/-- The body that is checked. -/
def bodyToCheck (h : Heap) (d : Datum) : Except Fault (Option Body) := do
  if d.isNull then return none
  let o ← h.entity .body "type" d
  let type ← h.lookupKey (part o "type")
  discard (Lint.bodyTypeFindings type)
  return some (← h.bodyOf o type (h.walked h.keyValue (part o "kvs")))

/-- What is found about what a request sends. Parameters that are not sent are only noticed. -/
def payloadFindings (h : Heap) (o : List (String × Datum)) (head : Request) :
    Except Fault (List Lint.Finding) := do
  let parameters := part o "parameters"
  if ← h.isGet o then
    Lint.payloadFindings { head with parameters := ← h.walked h.keyValue parameters }
  else
    let any := if h.isTruthy parameters then [({} : KeyValue)] else []
    let body ← h.bodyToCheck (part o "body")
    Lint.payloadFindings { head with parameters := any, body }

/-- What is found about an assertion on a regular expression with an index. -/
def regexFinding (h : Heap) (index : Nat) (d : Datum) : Except Fault (List Lint.Finding) := do
  let o ← h.entity .regex "is_valid" d
  let r ← h.regex d
  if r.isValid then discard (h.lookupKey (part o "subject"))
  Lint.regexFinding index r

/-- What is found about assertions on regular expressions, the first of which has an index. -/
def regexFindings (h : Heap) (index : Nat) : List Datum → Except Fault (List Lint.Finding)
  | [] => return []
  | d :: rest => do
    let here ← h.regexFinding index d
    let others ← h.regexFindings (index + 1) rest
    return here ++ others

/-- What is found about text assertions, of which only the number counts. -/
def textFindings (h : Heap) (d : Datum) : Except Fault (List Lint.Finding) := do
  if h.isTruthy d then return [.textAssertions (← h.length d)]
  return []

/-- What is found about the assertions of a request. -/
def assertionFindings (h : Heap) (d : Datum) : Except Fault (List Lint.Finding) := do
  if d.isNull then return []
  let o ← h.entity .assertions "regex" d
  let regex ← h.regexFindings 1 (← h.iterate (part o "regex"))
  let text ← h.textFindings (part o "text")
  let duration ← h.duration (part o "duration")
  return regex ++ text ++ Lint.durationFindings duration

/-- What is found about a request. -/
def requestFindings (h : Heap) (o : List (String × Datum)) (head : Request) :
    Logged (List Lint.Finding) := do
  let url ← Lint.urlFindings head
  let headers ← h.walked h.keyValue (part o "headers")
  let payload ← h.payloadFindings o head
  let assertions ← h.assertionFindings (part o "assertions")
  return url ++ Lint.dropped .headers headers ++ payload ++ assertions

/-- The issues of a request. -/
def requestIssues (h : Heap) (label : Value) (d : Datum) : Logged (List Lint.Issue) := do
  let o ← h.entity .request "url" d
  let head := h.requestHead o
  let findings ← h.requestFindings o head
  return findings.map (⟨·, Lint.requestLocation label head⟩)

/-- The issues of a scenario. -/
def scenarioIssues (h : Heap) (d : Datum) : Logged (List Lint.Issue) := do
  let o ← h.entity .scenario "requests" d
  let label := Lint.scenarioLabel (h.scalar o "name") (h.scalar o "id")
  let requests := part o "requests"
  let empty : List Lint.Issue := if h.isTruthy requests then [] else [⟨.noRequests, label⟩]
  let issues ← (← h.iterate requests).mapM (h.requestIssues label)
  return empty ++ issues.flatten

/-- The issues of a test. -/
def check (h : Heap) (d : Datum) : Logged Lint.Report := do
  let o ← h.entity .test "scenario_definition" d
  let scenarios ← h.iterate (part o "scenario_definition")
  let issues ← scenarios.mapM h.scenarioIssues
  return { path := none, testName := h.scalar o "name", issues := issues.flatten }

/-! ## Endpoints -/

/-- The endpoint of a request; what is no request has an empty one. -/
def endpoint (h : Heap) (d : Datum) : Logged Endpoint :=
  match h.entity? .request d with
  | some o => Endpoint.ofRequest (h.requestHead o)
  | none => return {}

end Heap

end LoadPlan.Workspace
