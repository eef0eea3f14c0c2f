import LoadPlan.Scenario.Options
import LoadPlan.Settings
import LoadPlan.Yaml.Reader

/-!
# Loading scenarios

A scenario document is a mapping with the options of a test and, under a key of their own, settings.
It comes from a file in JSON if the suffix says so, and in YAML otherwise.
-/

namespace LoadPlan

/-- A test with its settings and the file it came from. -/
structure Loaded where
  test : Test
  settings : Settings
  source : Option Path := none

namespace Loaded

/-- The key of the settings in a document. -/
def settingsKey : String := "settings"

/-- The test and the settings of a document. -/
def ofValue : Value → Logged Loaded
  | .mapping entries => do
    let settings ← Settings.ofValue (Entries.get entries settingsKey)
    let test ← (Test.ofOptions (.mapping (Entries.erase entries settingsKey))).logged 1
    return { test, settings }
  | v => throw (.shape (.document v.kind) none)

/-- The characters of a scenario file. -/
def characters (files : Files.Tree) (path : Path) : Except Fault (List Char) :=
  match files.read path with
  | .error problem => .error (.reading (.unreadable path problem))
  | .ok bytes =>
    match Text.Utf8.decode bytes with
    | .error problem => .error (.reading (.notText path problem))
    | .ok cs => .ok (Text.unifyLineEnds cs)

/-- The document in JSON that characters write. -/
def ofJson (path : Path) (cs : List Char) : Except Fault Value :=
  match Json.read cs with
  | .ok v => .ok v
  | .error .tooManyDigits => .error .tooManyDigits
  | .error (.syntaxError problem line column position) =>
    .error (.reading (.json path problem line column position))

/-- The document in YAML that characters write. -/
def ofYaml (path : Path) (cs : List Char) : Except Fault Value :=
  match Yaml.read cs with
  | .ok v => .ok v
  | .error .malformed => .error (.reading (.yaml path))
  | .error .badNumber => .error .badValue
  | .error .badCharacter => .error .badValue
  | .error .hugeCharacter => .error .infinite
  | .error .noTruthValue => .error .noSuchName

/-- The document in a scenario file. -/
def document (files : Files.Tree) (path : Path) : Except Fault Value := do
  let cs ← characters files path
  if Text.lower path.suffix == ".json" then ofJson path cs
  else ofYaml path cs

/-- A fault of a document as one of the file it is in. -/
def inFile (file : String) : Fault → Fault
  | .shape fault none => .shape fault (some file)
  | fault => fault

/-- The test and the settings in a scenario file. -/
def load (files : Files.Tree) (file : String) : Logged Loaded := do
  let path := Path.ofString file
  match files.find path with
  | .error .nameTooLong => throw (.system ⟨.nameTooLong, path⟩)
  | .error _ => throw (.noScenarioFile file)
  | .ok _ =>
    let value ← document files path
    let loaded ← ExceptT.adapt (inFile file) (ofValue value)
    note (.loaded file loaded.test.scenarios.length)
    return { loaded with source := some path }

end Loaded

end LoadPlan
