import LoadPlan.Workspace.Steps

/-!
# Building entities out of objects

An entity is built from an object that holds its options. An entity that is given where one of its
kind is expected is taken as it is. Otherwise an entity with plain defaults is made, and a copy of
the options, so that those that are given stay as they are: the copy gets what a kind wants in its
options, then the fields are set from it, and then the lists are filled.
-/

namespace LoadPlan.Workspace

/-- The value of a field that holds no entity and is not given. -/
def defaultOf (kind : Kind) (f : Field) : Value :=
  if kind == .test && f.name == "version" then .text "1.0.0" else .null

/-- The number of kinds that are nested in each other below a kind, with itself. -/
def nesting : Kind → Nat
  | .test => 5
  | .scenario => 4
  | .request => 3
  | .assertions | .body => 2
  | _ => 1

/-- A field of a new entity: with the datum that is given for it, else with its plain default. No
entity is built for it, and a list is new and empty. -/
def blankField (kind : Kind) (given : List (String × Datum)) (f : Field) :
    Drafting (String × Datum) := do
  match fieldOf? given f.name, f.content with
  | some d, _ => return (f.name, d)
  | none, .entities _ | none, .reserved => return (f.name, ← Drafting.alloc (.list []))
  | none, _ => return (f.name, .value (defaultOf kind f))

/-- A new entity of a kind with some of its fields given. -/
def blank (kind : Kind) (given : List (String × Datum)) : Drafting Datum := do
  if !given.all fun g => (kind.field? g.1).isSome then throw .wrongKind
  Drafting.alloc (.entity kind (← kind.fields.mapM (blankField kind given)))

/-- The options in a datum, null standing for no options. -/
def optionsIn (kind : Kind) (d : Datum) : Drafting OptionEntries := do
  let heap ← Drafting.heap
  match d, heap.object? d with
  | .value .null, _ => return []
  | _, some (.mapping entries) => return entries
  | _, _ => throw (.shape (.options kind.name (heap.kindName d)) none)

/-- Gives a notice about the options that are none of a kind's fields, if there are any. -/
def noteIgnoredIn (kind : Kind) (entries : OptionEntries) : Drafting Unit := do
  let ignored := (entries.map (·.1)).filter fun k => !kind.optionNames.any k.isText
  if ignored.isEmpty then return
  match Value.sortKeys? ignored with
  | some keys => Drafting.note (.ignoredOptions kind.name keys)
  | none => throw .wrongKind

/-- New options for a list with one entity that has all defaults. -/
def oneDefault : Drafting Datum := do
  Drafting.alloc (.list [← Drafting.alloc (.mapping [])])

/-- Gives an entity a new id. -/
def number (self : Datum) : Drafting Unit := do
  Drafting.assign self "id" (.value (.int (← Drafting.drawId)))

/-- Puts a datum into options under a key if none is given there. -/
def putDefault (options : Datum) (key : String) (default : Drafting Datum) : Drafting Unit := do
  let h ← Drafting.heap
  if !h.isTruthy (← h.optionAt options key) then Drafting.putEntry options key (← default)

section Build

variable (build : Kind → Datum → Drafting Datum)

/-- Builds an entity from the option under a key and puts it there. -/
def buildOption (options : Datum) (key : String) (child : Kind) : Drafting Unit := do
  let given ← (← Drafting.heap).optionAt options key
  Drafting.putEntry options key (← build child given)

/-- Puts into the options of a new entity what its kind wants in them. Requests and scenarios get
their ids here, before the parts of them that are built now or later. -/
def prepare (kind : Kind) (self options : Datum) : Drafting Unit := do
  match kind with
  | .assertions => buildOption build options "duration" .responseTime
  | .request =>
    number self
    putDefault options "method" (return .value (.text "GET"))
    buildOption build options "body" .body
    buildOption build options "assertions" .assertions
  | .scenario =>
    number self
    putDefault options "requests" oneDefault
  | .test =>
    let given ← Drafting.getOption self options "scenario_definition"
    if !(← Drafting.heap).isTruthy given then
      Drafting.putOption self options "scenario_definition" (← oneDefault)
  | _ => pure ()

/-- Fills a new entity from its own copy of the options. -/
def fill (kind : Kind) (self options : Datum) : Drafting Unit := do
  prepare build kind self options
  Drafting.setAll self options
  Drafting.addAll build self options
  noteIgnoredIn kind (← optionsIn kind options)

/-- Makes an entity from options that a datum holds. -/
def draftNew (kind : Kind) (d : Datum) : Drafting Datum := do
  let entries ← optionsIn kind d
  let self ← blank kind []
  let options ← Drafting.alloc (.mapping entries)
  fill build kind self options
  return self

end Build

/-- Builds an entity of a kind; kinds may be nested so deep. -/
def draftTo : Nat → Kind → Datum → Drafting Datum
  | 0, _, _ => throw .wrongKind
  | depth + 1, kind, d => do
    if ((← Drafting.heap).entity? kind d).isSome then return d
    draftNew (draftTo depth) kind d

/-- Builds an entity of a kind from a datum. -/
def draft (kind : Kind) (d : Datum) : Drafting Datum :=
  draftTo (nesting kind) kind d

end LoadPlan.Workspace
