import LoadPlan.Files.Tree
import LoadPlan.Json.Reader
import LoadPlan.Text.Quoted
import LoadPlan.Text.Utf8
import LoadPlan.Xml.Problem

/-!
# Faults

Everything that can go wrong when a scenario is loaded, built, compiled or written and when a plan
is checked. A fault is a cause with what its wording needs; `Fault.message` is the wording.
-/

namespace LoadPlan

/-- Why the contents of a scenario file cannot be had. -/
inductive ReadingFault where
  | unreadable (path : Path) (problem : Files.Problem)
  | notText (path : Path) (problem : Text.Utf8.Problem)
  | json (path : Path) (problem : Json.Problem) (line column position : Nat)
  | yaml (path : Path)
  deriving DecidableEq, Repr

/-- How a scenario document has the wrong shape. -/
inductive ShapeFault where
  /-- The document is not a mapping. -/
  | document (kind : String)
  /-- The options of an entity are not a mapping. -/
  | options (entity kind : String)
  /-- A list of an entity, under the key used for it, is not a list. -/
  | list (key entity kind : String)
  /-- The settings are not a mapping. -/
  | settings (kind : String)
  /-- A setting, with the text of its value, is no integer. -/
  | setting (name literal : String)
  | threads (found : String)
  | rampTime (found : String)
  | loops (found : String)
  deriving DecidableEq, Repr

/-- Something that went wrong. -/
inductive Fault where
  | noScenarioFile (path : String)
  | noPlanFile (path : String)
  | reading (fault : ReadingFault)
  /-- A document has the wrong shape; the file it is in, if it is in one. -/
  | shape (fault : ShapeFault) (file : Option String)
  /-- The input of a compilation is neither a test nor options for one. -/
  | notATest (kind : String)
  /-- A plan could not be compiled and written, with the wording of the cause. -/
  | generation (cause : String)
  /-- A checked document is not well-formed. -/
  | malformedDocument (problem : Xml.Problem) (line column : Nat)
  /-- A checked file is not well-formed. -/
  | malformedFile (problem : Xml.Problem) (line column : Nat)
  /-- A path could not be used. -/
  | system (problem : Files.Problem)
  /-- A value of some kind was used as an entity or a text with a member it does not have. -/
  | noMember (kind member : String)
  /-- A value of the wrong kind was used. -/
  | wrongKind
  /-- A text or number is not of the form needed. -/
  | badValue
  /-- An infinite number was used as an integer. -/
  | infinite
  /-- An integer has more digits than are read or written. -/
  | tooManyDigits
  | noSuchEncoding
  | multibyteEncoding
  /-- A tag or attribute name cannot stand in a document. -/
  | badName
  /-- An entity has no field of a name. -/
  | noSuchField
  /-- A list has no item at an index. -/
  | noSuchIndex
  /-- There is no value under a name. -/
  | noSuchName
  deriving DecidableEq, Repr

/-- The wording of a reading fault. -/
def ReadingFault.message : ReadingFault → String
  | .unreadable path problem =>
    s!"Cannot read scenario file {path}: " ++ problem.message Text.quoted
  | .notText path problem => s!"Cannot read scenario file {path}: " ++ problem.message
  | .json path problem line column position =>
    s!"Invalid JSON syntax in {path}: " ++ problem.message ++
      s!": line {line} column {column} (char {position})"
  | .yaml path => s!"Invalid YAML syntax in {path}"

/-- The wording of a shape fault. -/
def ShapeFault.message : ShapeFault → String
  | .document kind => s!"Invalid scenario format: expected dictionary, got {kind}"
  | .options entity kind => s!"Invalid {entity} options: expected mapping, got {kind}"
  | .list key entity kind => s!"Invalid '{key}' in {entity}: expected list, got {kind}"
  | .settings kind => s!"Invalid 'settings': expected dictionary, got {kind}"
  | .setting name literal => s!"Invalid setting '{name}': expected integer, got {literal}"
  | .threads found => s!"'threads' must be >= 1 (found: {found})"
  | .rampTime found => s!"'ramp_time' must be >= 0 (found: {found})"
  | .loops found => s!"'loops' must be a positive number or -1 for infinite (found: {found})"

/-- The wording of a fault. -/
def Fault.message : Fault → String
  | .noScenarioFile path => s!"Scenario file not found: {path}"
  | .noPlanFile path => s!"JMX file not found: {path}"
  | .reading fault => fault.message
  | .shape fault none => fault.message
  | .shape fault (some file) => fault.message ++ s!" (in {file})"
  | .notATest kind => s!"Cannot compile {kind}: expected Test or options mapping"
  | .generation cause => s!"Failed to generate JMX file: {cause}"
  | .malformedDocument problem line column =>
    "Invalid XML in JMX document: " ++ Xml.placed problem line column
  | .malformedFile problem line column =>
    "Invalid XML in JMX file: " ++ Xml.placed problem line column
  | .system problem => problem.message Text.quoted
  | .noMember kind member => s!"'{kind}' object has no attribute '{member}'"
  | .wrongKind => "a value of the wrong kind was used"
  | .badValue => "a value is not of the form needed"
  | .infinite => "an infinite number was used as an integer"
  | .tooManyDigits => "an integer has too many digits"
  | .noSuchEncoding => "the encoding is not known"
  | .multibyteEncoding => "the encoding cannot be read"
  | .badName => "a name cannot stand in a document"
  | .noSuchField => "there is no such field"
  | .noSuchIndex => "there is no such index"
  | .noSuchName => "there is no such name"

end LoadPlan
