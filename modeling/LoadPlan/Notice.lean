import LoadPlan.Fault
import LoadPlan.Plan.Stats
import LoadPlan.Url.Basic
import LoadPlan.Value.Printer

/-!
# Notices

What is worth knowing about a build, a compilation or a loaded file although it does not fail. The
computations of this library return the notices they give along with their result, also when they
end in a fault.
-/

namespace LoadPlan

/-- How much a notice matters. -/
inductive Level where
  | debug
  | info
  | warning
  deriving DecidableEq, Repr

/-- The name of a level. -/
def Level.name : Level → String
  | .debug => "DEBUG"
  | .info => "INFO"
  | .warning => "WARNING"

/-- A level as a number, higher when it matters more. -/
def Level.rank : Level → Nat
  | .debug => 0
  | .info => 1
  | .warning => 2

/-- Something worth knowing. -/
inductive Notice where
  /-- Options of an entity that are none of its fields, in order. -/
  | ignoredOptions (entity : String) (keys : List Value)
  | malformedUrl (url request : Value) (problem : Url.Problem)
  | noMethod (request : Value)
  | noBody (request : Value)
  | unsupportedSubject (subject request : Value)
  | compiled (test : Value) (stats : Stats)
  | loaded (path : String) (scenarios : Nat)
  | generated (stats : Stats)

namespace Notice

/-- How much a notice matters. -/
def level : Notice → Level
  | ignoredOptions .. => .debug
  | malformedUrl .. => .warning
  | noMethod .. => .warning
  | noBody .. => .warning
  | unsupportedSubject .. => .warning
  | compiled .. => .debug
  | loaded .. => .debug
  | generated .. => .info

/-- Counts as a mapping. -/
def statsValue (s : Stats) : Value :=
  .mapping (s.toList.map fun e => (.text e.1, .int e.2))

/-- The wording of a notice. -/
def message : Notice → String
  | ignoredOptions entity keys => s!"Ignoring unknown {entity} options: " ++ (Value.list keys).literal
  | malformedUrl url request problem =>
    "Malformed URL " ++ url.literal ++ " in request " ++ request.literal ++ ": " ++ problem.message
  | noMethod request =>
    "Request " ++ request.literal ++ " has no method; arguments and body omitted"
  | noBody request => "Request " ++ request.literal ++ " has no body; body omitted"
  | unsupportedSubject subject request =>
    "Unsupported regex assertion subject " ++ subject.literal ++ " in request " ++
      request.literal ++ "; assertion skipped"
  | compiled test stats => "Compiled test " ++ test.literal ++ ": " ++ (statsValue stats).literal
  | loaded path scenarios => s!"Loaded scenario file {path}: {scenarios} scenario(s)"
  | generated stats => stats.summary

end Notice

/-- A computation that gives notices. -/
abbrev Logged := ExceptT Fault (StateM (List Notice))

/-- Gives a notice. -/
def note (n : Notice) : Logged Unit :=
  modify (· ++ [n])

/-- The outcome of a computation and its notices. -/
def Logged.outcome {α : Type} (x : Logged α) : Except Fault α × List Notice :=
  x.run []

end LoadPlan
