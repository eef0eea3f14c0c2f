import LoadPlan.Notice
import LoadPlan.Scenario.Basic
import LoadPlan.Scenario.Schema
import LoadPlan.Value.Order

/-!
# Building entities from options

An entity is built from a mapping of options, null standing for an empty one. A field that is not
given keeps its default, single entities are always built, and a test without scenarios or a scenario
without requests gets one of them with all defaults. Scenarios and requests draw ids from a common
sequence, each before its parts.
-/

namespace LoadPlan

/-- The state of a build: the next id to draw, and the notices so far. -/
structure BuildState where
  nextId : Int := 1
  notices : List Notice := []

/-- A computation that draws ids and gives notices. -/
abbrev Build := ExceptT Fault (StateM BuildState)

namespace Build

/-- Draws the next id. -/
def drawId : Build Int :=
  modifyGet fun s => (s.nextId, { s with nextId := s.nextId + 1 })

/-- Gives a notice. -/
def note (n : Notice) : Build Unit :=
  modify fun s => { s with notices := s.notices ++ [n] }

/-- The outcome of a build that starts at an id, with the id that comes next and the notices. -/
def outcome {α : Type} (x : Build α) (first : Int) : Except Fault α × BuildState :=
  x.run { nextId := first }

/-- A build as a computation that only gives notices. -/
def logged {α : Type} (x : Build α) (first : Int) : Logged α := do
  let (result, state) := x.outcome first
  modify (· ++ state.notices)
  result

end Build

namespace Options

/-- The options of an entity of a kind. -/
def ofValue (kind : Kind) : Value → Build Entries
  | .null => pure []
  | .mapping entries => pure entries
  | v => throw (.shape (.options kind.name v.kind) none)

/-- The option of a field, under its name, else under its further name. -/
def find? (entries : Entries) (name further : String) : Option (String × Value) :=
  match Entries.find? entries name with
  | some v => some (name, v)
  | none => (Entries.find? entries further).map fun v => (further, v)

/-- Gives a notice about the options that are none of a kind's fields, if there are any. -/
def noteIgnored (kind : Kind) (entries : Entries) : Build Unit :=
  let ignored := (entries.map (·.1)).filter fun k => !kind.optionNames.any k.isText
  if ignored.isEmpty then pure ()
  else
    match Value.sortKeys? ignored with
    | some keys => Build.note (.ignoredOptions kind.name keys)
    | none => throw .wrongKind

/-- The entities of a list of options, null standing for an empty list. -/
def entities {α : Type} (build : Value → Build α) (kind : Kind) (key : String) :
    Value → Build (List α)
  | .null => pure []
  | .list items => items.mapM build
  | v => throw (.shape (.list key kind.name v.kind) none)

end Options

open Options

/-- Builds a name and a value. -/
def KeyValue.ofOptions (v : Value) : Build KeyValue := do
  let o ← ofValue .keyValue v
  noteIgnored .keyValue o
  return { name := o.get "name", value := o.get "value" }

/-- Builds a text assertion. -/
def TextAssertion.ofOptions (v : Value) : Build TextAssertion := do
  let o ← ofValue .text v
  noteIgnored .text o
  return { subject := o.get "subject", condition := o.get "condition", value := o.get "value" }

/-- Builds an assertion on a regular expression. -/
def RegexAssertion.ofOptions (v : Value) : Build RegexAssertion := do
  let o ← ofValue .regex v
  noteIgnored .regex o
  return { subject := o.get "subject", expression := o.get "expression",
           description := o.get "description" }

/-- Builds a greatest duration. -/
def ResponseTime.ofOptions (v : Value) : Build ResponseTime := do
  let o ← ofValue .responseTime v
  noteIgnored .responseTime o
  return { value := o.get "value" }

/-- Builds the assertions of a request. -/
def Assertions.ofOptions (v : Value) : Build Assertions := do
  let o ← ofValue .assertions v
  let duration ← ResponseTime.ofOptions (o.get "duration")
  let text ← entities TextAssertion.ofOptions .assertions "text" (o.get "text")
  let regex ← entities RegexAssertion.ofOptions .assertions "regex" (o.get "regex")
  noteIgnored .assertions o
  return { text, regex, duration := some duration }

/-- Builds a body. -/
def Body.ofOptions (v : Value) : Build Body := do
  let o ← ofValue .body v
  let kvs ← entities KeyValue.ofOptions .body "kvs" (o.get "kvs")
  noteIgnored .body o
  return { type := o.get "type", raw := o.get "raw", kvs }

/-- Builds a request; its method is GET unless one is given. -/
def Request.ofOptions (v : Value) : Build Request := do
  let o ← ofValue .request v
  let id ← Build.drawId
  let body ← Body.ofOptions (o.get "body")
  let assertions ← Assertions.ofOptions (o.get "assertions")
  let parameters ← entities KeyValue.ofOptions .request "parameters" (o.get "parameters")
  let headers ← entities KeyValue.ofOptions .request "headers" (o.get "headers")
  noteIgnored .request o
  return { id := (o.find? "id").getD (.int id), name := o.get "name", url := o.get "url",
           method := (o.get "method").orElse (.text "GET"), parameters, headers,
           body := some body, assertions := some assertions }

/-- A list with one entity that has all defaults, in place of a value that is not given. -/
def Options.orDefault (v : Value) : Value :=
  v.orElse (.list [.mapping []])

/-- Builds a scenario. -/
def Scenario.ofOptions (v : Value) : Build Scenario := do
  let o ← ofValue .scenario v
  let id ← Build.drawId
  let parameters ← entities KeyValue.ofOptions .scenario "parameters" (o.get "parameters")
  let headers ← entities KeyValue.ofOptions .scenario "headers" (o.get "headers")
  let requests ←
    entities Request.ofOptions .scenario "requests" (orDefault (o.get "requests"))
  noteIgnored .scenario o
  return { id := (o.find? "id").getD (.int id), name := o.get "name", url := o.get "url",
           parameters, headers, requests }

/-- Builds a test. -/
def Test.ofOptions (v : Value) : Build Test := do
  let o ← ofValue .test v
  let (key, given) :=
    (Options.find? o "scenario_definition" "scenarioDefinition").getD ("scenario_definition", .null)
  let scenarios ← entities Scenario.ofOptions .test key (orDefault given)
  noteIgnored .test o
  return { version := (o.find? "version").getD (.text "1.0.0"), id := o.get "id",
           name := o.get "name",
           projectId := ((Options.find? o "project_id" "projectId").map (·.2)).getD .null,
           scenarios }

end LoadPlan
