import LoadPlan.Notice
import LoadPlan.Workspace.Heap

/-!
# Steps on objects

What builds and edits by hand consist of: objects are made and replaced, entries are put into
options, and the fields of an entity are set or its lists extended from options. Options are looked
at as they are when a step needs them, so an earlier step can change what a later one finds.
-/

namespace LoadPlan.Workspace

/-- The entries of a mapping of options. -/
abbrev OptionEntries := List (Value × Datum)

/-- The option of a field, under its name, else under its further name. -/
def optionOf? (entries : OptionEntries) (f : Field) : Option (String × Datum) :=
  match entryOf? entries f.name with
  | some d => some (f.name, d)
  | none =>
    match f.furtherName? with
    | none => none
    | some further => (entryOf? entries further).map fun d => (further, d)

/-- Data under keys, with one of them put under a key: in place of what is there, else as a last
one. -/
def put {κ : Type} (isKey : κ → Bool) (key : κ) (d : Datum) : List (κ × Datum) → List (κ × Datum)
  | [] => [(key, d)]
  | e :: rest => if isKey e.1 then (e.1, d) :: rest else e :: put isKey key d rest

/-- Fields with one of them set. -/
def withField (fields : List (String × Datum)) (name : String) (d : Datum) :
    List (String × Datum) :=
  put (· == name) name d fields

/-- Entries with one under a key that is a text. -/
def withEntry (entries : OptionEntries) (key : String) (d : Datum) : OptionEntries :=
  put (·.isText key) (.text key) d entries

namespace Heap

/-! ## Looking at options -/

/-- Whether options hold a name: as a key of a mapping, an item of a list, or a part of a text. -/
def holds (h : Heap) (options : Datum) (name : String) : Except Fault Bool :=
  match h.object? options, options with
  | some (.mapping entries), _ => .ok (entryOf? entries name).isSome
  | some (.list items), _ => .ok (items.any fun d => (h.value d).isText name)
  | _, .value (.text s) => .ok ((s.splitOn name).length != 1)
  | _, _ => .error .wrongKind

/-- The name under which options hold a field, if they do. -/
def optionName? (h : Heap) (options : Datum) (f : Field) : Except Fault (Option String) := do
  if ← h.holds options f.name then return some f.name
  match f.furtherName? with
  | none => return none
  | some further => return if ← h.holds options further then some further else none

/-- The option of a name, null if options do not hold it. -/
def optionAt (h : Heap) (options : Datum) (name : String) : Except Fault Datum :=
  match h.object? options with
  | some (.mapping entries) => .ok ((entryOf? entries name).getD .null)
  | _ => .error .wrongKind

/-- The options for the entities of a list of an entity. -/
def listGiven (h : Heap) (kind : Kind) (options : Datum) (f : Field) :
    Except Fault (List Datum) := do
  match ← h.optionName? options f with
  | none => return []
  | some name =>
    let d ← h.optionAt options name
    if d.isNull then return []
    match h.object? d with
    | some (.list items) => return items
    | _ => throw (.shape (.list name kind.name (h.kindName d)) none)

end Heap

/-- The field of an entity that has a name. -/
def fieldNamed (kind : Kind) (name : String) : Except Fault Field :=
  match kind.field? name with
  | some f => .ok f
  | none => .error .noSuchField

/-- The state of a build: the objects, the next id to draw, and the notices so far. -/
structure Draft where
  heap : Heap
  nextId : Int := 1
  notices : List Notice := []

/-- A computation that makes and changes objects. -/
abbrev Drafting := ExceptT Fault (StateM Draft)

namespace Drafting

/-- The objects so far. -/
def heap : Drafting Heap := do
  return (← get).heap

/-- Makes an object. -/
def alloc (o : Object) : Drafting Datum :=
  modifyGet fun s =>
    let (heap, r) := s.heap.alloc o
    (.object r, { s with heap })

/-- Replaces an object. -/
def write (r : Ref) (o : Object) : Drafting Unit :=
  modify fun s => { s with heap := s.heap.write r o }

/-- Draws the next id. -/
def drawId : Drafting Int :=
  modifyGet fun s => (s.nextId, { s with nextId := s.nextId + 1 })

/-- Gives a notice. -/
def note (n : Notice) : Drafting Unit :=
  modify fun s => { s with notices := s.notices ++ [n] }

/-- The place, kind and fields of a datum that must be an entity, as `needed` is looked up in it. -/
def entity (d : Datum) (needed : String) : Drafting (Ref × Kind × List (String × Datum)) := do
  let h ← heap
  match d, h.object? d with
  | .object r, some (.entity kind fields) => return (r, kind, fields)
  | _, _ => throw (.noMember (h.kindName d) needed)

/-! ## Changing options -/

/-- Puts a datum into options under a key. -/
def putEntry (options : Datum) (key : String) (x : Datum) : Drafting Unit := do
  let h ← heap
  match options, h.object? options with
  | .object r, some (.mapping entries) => write r (.mapping (withEntry entries key x))
  | _, _ => throw .wrongKind

/-- Takes the entry under a key out of options, if there is one. -/
def dropEntry (options : Datum) (key : String) : Drafting Unit := do
  let h ← heap
  match options, h.object? options with
  | .object r, some (.mapping entries) =>
    write r (.mapping (entries.filter fun e => !e.1.isText key))
  | _, some (.list _) => throw .wrongKind
  | _, _ => throw (.noMember (h.kindName options) "pop")

/-- The option of a field of an entity, null if options do not hold it. -/
def getOption (d options : Datum) (name : String) : Drafting Datum := do
  let (_, kind, _) ← entity d "get_option"
  let f ← fieldNamed kind name
  let h ← heap
  match ← h.optionName? options f with
  | some name => h.optionAt options name
  | none => return .null

/-- Puts a datum into options as the option of a field, in place of one under a further name. -/
def putOption (d options : Datum) (name : String) (x : Datum) : Drafting Unit := do
  let (_, kind, _) ← entity d "put_option"
  let f ← fieldNamed kind name
  f.furtherName?.forM (dropEntry options)
  putEntry options name x

/-! ## Changing an entity -/

/-- Sets a field of an entity to a datum. -/
def assign (d : Datum) (name : String) (x : Datum) : Drafting Unit := do
  let (r, kind, fields) ← entity d name
  write r (.entity kind (withField fields name x))

/-- Sets a field of an entity that options hold, unless the field holds a list now. -/
def setField (d options : Datum) (f : Field) : Drafting Unit := do
  let (r, kind, fields) ← entity d f.name
  let h ← heap
  match ← h.optionName? options f with
  | none => pure ()
  | some name =>
    if h.isList (Heap.part fields f.name) then pure ()
    else write r (.entity kind (withField fields f.name (← h.optionAt options name)))

/-- Sets the fields of an entity that options hold, but no lists. -/
def setAll (d options : Datum) : Drafting Unit := do
  let (_, kind, _) ← entity d "set"
  kind.fields.forM (setField d options)

/-- Adds a datum at the end of a list. -/
def append (target : Datum) (d : Datum) : Drafting Unit := do
  let h ← heap
  match target, h.object? target with
  | .object r, some (.list items) => write r (.list (items ++ [d]))
  | _, _ => throw (.noMember (h.kindName target) "append")

section Lists

variable (build : Kind → Datum → Drafting Datum)

/-- Builds an entity and adds it at the end of a list, which must be one. -/
def appendBuilt (target : Datum) (kind : Kind) (options : Datum) : Drafting Unit := do
  let h ← heap
  if !h.isList target then throw (.noMember (h.kindName target) "append")
  append target (← build kind options)

/-- Builds the entities that options hold for a list of an entity, and adds them to it. -/
def addToList (d options : Datum) (f : Field) : Drafting Unit := do
  match f.content with
  | .entities child =>
    let (_, kind, fields) ← entity d f.name
    let items ← (← heap).listGiven kind options f
    items.forM (appendBuilt build (Heap.part fields f.name) child)
  | _ => pure ()

/-- Adds to the lists of an entity what options hold for them. -/
def addAll (d options : Datum) : Drafting Unit := do
  let (_, kind, _) ← entity d "sets"
  kind.fields.forM (addToList build d options)

end Lists

end Drafting

end LoadPlan.Workspace
