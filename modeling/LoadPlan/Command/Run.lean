import LoadPlan.Command.Help
import LoadPlan.Lint.File
import LoadPlan.Plan.Generate
import LoadPlan.Plan.Review
import LoadPlan.Text.Terminal

/-!
# Running a command

A command line is run on a tree of files. It ends with a status, the files as they are afterwards,
and the lines it has written. Faults that a command does not report escape from it; it then ends
like one that has failed.
-/

namespace LoadPlan.Command

/-- How a command line has ended. -/
structure Outcome where
  status : Nat
  files : Files.Tree
  output : List String := []
  /-- What was written about a misuse. -/
  errors : List String := []
  /-- A fault that was not reported. -/
  escaped : Option Fault := none

/-- How a command has ended: its lines, and its status or the fault that escaped. -/
structure Ending where
  files : Files.Tree
  lines : List String
  result : Except Fault Nat

/-- Whether a fault is reported by the commands. -/
def isReported : Fault → Bool
  | .noScenarioFile _ | .noPlanFile _ | .reading _ | .shape .. | .notATest _ | .generation _
  | .malformedDocument .. | .malformedFile .. => true
  | _ => false

/-- The lines of a message with a text in it. -/
def message (before text : String) : List String :=
  Text.shownLines (before ++ Text.shown text)

/-- The end of a command with a fault, after some lines. -/
def failed (files : Files.Tree) (lines : List String) (fault : Fault) : Ending :=
  if isReported fault then ⟨files, lines ++ [""] ++ message "Error: " fault.message, .ok 1⟩
  else ⟨files, lines, .error fault⟩

/-- Texts with numbers, from 1. -/
def numbered (texts : List String) : List String :=
  (texts.zipIdx 1).flatMap fun (text, i) => message ("  " ++ toString i ++ ". ") text

/-! ## Generating -/

/-- The path of the plan of a test, if none is given: beside the scenario file, named for the test
or else for the file. -/
def defaultOutput (file : String) (name : Value) : Path :=
  let path := Path.ofString file
  let stem := if name.isTruthy then name.display else path.stem
  path.parent.join (.ofString (stem ++ ".jmx"))

/-- The settings that a command line overrides. -/
def overrides (w : Words) : List (String × Value) :=
  let number (f : Flag) : Value :=
    match (w.value? f).bind Number.integer? with
    | some n => .int n
    | none => .null
  [("threads", number .threads), ("ramp_time", number .rampUp), ("loops", number .loops),
   ("listener_classname", ((w.value? .listener).map Value.text).getD .null)]

/-- The path for a plan: the one that is given, unless it is empty. -/
def outputPath (w : Words) (file : String) (name : Value) : String :=
  match w.value? .output with
  | some given => if given.isEmpty then toString (defaultOutput file name) else given
  | none => toString (defaultOutput file name)

/-- What is written before a plan is compiled. -/
def announcement (output : String) (s : Settings) : List String :=
  message "Generating JMX file: " output ++
    ["  Threads: " ++ s.threads.display, "  Ramp-up: " ++ s.rampTime.display ++ "s",
     "  Loops: " ++ s.loops.display, ""]

/-- What is written about a plan. -/
def generatedLines (g : Plan.Generated) : List String :=
  ["Generation Complete", "✓ JMX file generated successfully!", ""] ++
    message "File: " (toString g.path) ++
    ["Thread groups: " ++ toString g.stats.threadGroups,
     "Samplers: " ++ toString g.stats.samplers,
     "Header managers: " ++ toString g.stats.headerManagers,
     "Assertions: " ++ toString g.stats.allAssertions,
     "",
     "Next step: Open in JMeter GUI or run headless"]

/-- A scenario file with the settings that a command line overrides. -/
def prepared (files : Files.Tree) (w : Words) (file : String) :
    Except Fault (Test × Settings × String) := do
  let loaded ← (Loaded.load files file).outcome.1
  let settings ← loaded.settings.override (overrides w)
  return (loaded.test, settings, outputPath w file loaded.test.name)

/-- Writes the plan of a scenario file. -/
def generate (files : Files.Tree) (w : Words) (file : String) : Ending :=
  match prepared files w file with
  | .error fault => failed files [] fault
  | .ok (test, settings, output) =>
    let lines := announcement output settings
    let attempt := Plan.generate settings (pure test) files output
    match attempt.result with
    | .error fault => failed attempt.files lines fault
    | .ok generated => ⟨attempt.files, lines ++ generatedLines generated, .ok 0⟩

/-! ## Validating -/

/-- A row of the table of issues. -/
def issueRow (issue : Lint.Issue) (index : Nat) : List String :=
  let location := if issue.location.isTruthy then issue.location.display else ""
  Text.tableRow [toString index, issue.finding.severity.name.toUpper, issue.finding.category.name,
    Text.shown location, Text.shown issue.finding.message]

/-- The table of issues. -/
def issueTable (issues : List Lint.Issue) : List String :=
  if issues.isEmpty then []
  else
    ["Validation Issues", "# | Level | Category | Location | Message"] ++
      (issues.zipIdx 1).flatMap fun (issue, i) => issueRow issue i

/-- What is written about a report, and the name of the test before it, which must be a text. -/
def reportLines (r : Lint.Report) : Except Fault (List String) := do
  let title ←
    match r.testName with
    | .text s => pure (if s.isEmpty then [] else message "Test: " s)
    | v => if v.isTruthy then throw .wrongKind else pure []
  let warnings := toString (r.count .warning)
  let verdict :=
    if r.isValid then "✓ Scenario is valid! (" ++ warnings ++ " warning(s))"
    else "✗ Scenario has " ++ toString (r.count .error) ++ " error(s), " ++ warnings ++
      " warning(s)"
  return title ++ ["", verdict] ++ issueTable r.issues ++ [""]

/-- Reports the issues of a scenario file. -/
def validate (files : Files.Tree) (file : String) : Ending :=
  let lines := [""] ++ message "Validating scenario file: " file ++ [""]
  match (Lint.checkFile files file).outcome.1 with
  | .error fault => ⟨files, lines, .error fault⟩
  | .ok report =>
    match reportLines report with
    | .error fault => ⟨files, lines, .error fault⟩
    | .ok more => ⟨files, lines ++ more, .ok (if report.isValid then 0 else 1)⟩

/-! ## Checking -/

/-- What is written about a review. -/
def reviewLines (r : Plan.Review) : List String :=
  let defects :=
    if r.isValid then ["✓ JMX file is valid!"]
    else
      ["✗ JMX file has " ++ toString r.defects.length ++ " issue(s)", "", "Issues Found:"] ++
        numbered (r.defects.map (·.message))
  let advice :=
    if r.advice.isEmpty then []
    else ["", "Recommendations:"] ++ numbered (r.advice.map (·.message))
  defects ++ advice ++ [""]

/-- Checks the plan in a file. -/
def check (files : Files.Tree) (file : String) : Ending :=
  let lines := [""] ++ message "Checking JMX file: " file ++ [""]
  match Plan.reviewFile files file with
  | .error fault => failed files lines fault
  | .ok r => ⟨files, lines ++ reviewLines r, .ok (if r.isValid then 0 else 1)⟩

/-! ## Command lines -/

/-- The end of a command line that is misused. -/
def misused (files : Files.Tree) (t : Topic) (m : Misuse) : Outcome where
  status := 2
  files := files
  errors := misuseLines t m

/-- The end of a command line that only asks for some lines. -/
def told (files : Files.Tree) (lines : List String) : Outcome where
  status := 0
  files := files
  output := lines

/-- The end of a command as the end of its command line. -/
def ended (e : Ending) : Outcome :=
  match e.result with
  | .ok status => { status, files := e.files, output := e.lines }
  | .error fault => { status := 1, files := e.files, output := e.lines, escaped := some fault }

/-- What an option that ends the reading tells. -/
def eagerLines (t : Topic) : Flag → List String
  | .version => [versionLine]
  | _ => t.help

/-- Runs a command with its words. -/
def runCommand (files : Files.Tree) (t : Topic) (args : List String) : Outcome :=
  match words t args with
  | .error m => misused files t m
  | .ok w =>
    match w.eager? with
    | some flag => told files (eagerLines t flag)
    | none =>
      match argumentOf files t w with
      | .error m => misused files t m
      | .ok file =>
        match t with
        | .generate => ended (generate files w file)
        | .validate => ended (validate files file)
        | _ => ended (check files file)

/-- The command with a name. -/
def commandNamed? : String → Option Topic
  | "generate" => some .generate
  | "validate" => some .validate
  | "check" => some .check
  | _ => none

/-- What is wrong with a word that should be a command. -/
def noCommandNamed (name : String) : Misuse :=
  if isOption name then
    match optionsOf .program name with
    | .error m => m
    | .ok _ => .noSuchCommand name
  else .noSuchCommand name

/-- Runs a command line. -/
def run (files : Files.Tree) (args : List String) : Outcome :=
  if args.isEmpty then misused files .program .nothing
  else
    match words .program args with
    | .error m => misused files .program m
    | .ok w =>
      match w.eager?, w.arguments with
      | some flag, _ => told files (eagerLines .program flag)
      | none, [] => misused files .program .noCommand
      | none, name :: rest =>
        match commandNamed? name with
        | some t => runCommand files t rest
        | none => misused files .program (noCommandNamed name)

end LoadPlan.Command
