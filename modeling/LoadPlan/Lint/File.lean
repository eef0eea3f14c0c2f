import LoadPlan.Lint.Check
import LoadPlan.Scenario.Loaded

/-!
# Finding the issues of a file

A file that cannot be loaded is reported like any other issue, as the only one.
-/

namespace LoadPlan.Lint

/-- The finding that a fault of loading a file makes, if it is one that is reported. -/
def findingOf? (fault : Fault) : Option Finding :=
  match fault with
  | .noScenarioFile _ => some (.unreadable fault.message)
  | .reading _ => some (.unreadable fault.message)
  | .shape .. => some (.misshapen fault.message)
  | _ => none

/-- The report on a scenario file. -/
def checkFile (files : Files.Tree) (file : String) : Logged Report :=
  tryCatch (do
    let loaded ← Loaded.load files file
    let report ← check loaded.test
    return { report with path := some file })
  fun fault =>
    match findingOf? fault with
    | some finding => return failed file finding
    | none => throw fault

end LoadPlan.Lint
