import LoadPlan.Workspace.Draft
import LoadPlan.Workspace.Reading

/-!
# Editing by hand

A workspace keeps objects under names, the sequence that ids are drawn from if one was started, and
the settings for compilations. Each operation either succeeds or ends in a fault; what it has
changed before a fault stays changed.
-/

namespace LoadPlan

/-- A workspace. -/
structure Workspace where
  heap : Workspace.Heap := {}
  names : List (String × Workspace.Datum) := []
  /-- The next id of the common sequence, if there is one. -/
  nextId : Option Int := none
  settings : Settings := {}
  notices : List Notice := []

namespace Workspace

/-- An operation on a workspace. -/
abbrev Session := ExceptT Fault (StateM Workspace)

/-- A step of a path: to a field of an entity, or to an item of a list. -/
inductive PathStep where
  | field (name : String)
  | index (i : Int)
  deriving DecidableEq, Repr

/-- What an operation is given: new data, in which objects that are there already can be parts. -/
inductive Outline where
  | value (v : Value)
  | list (items : List Outline)
  | mapping (entries : List (Value × Outline))
  /-- The datum at a path that starts at a name. -/
  | at (name : String) (path : List PathStep)
  deriving Inhabited

namespace Session

/-- The objects. -/
def heap : Session Heap := do
  return (← get).heap

/-- Makes an object. -/
def alloc (o : Object) : Session Datum :=
  modifyGet fun s =>
    let (heap, r) := s.heap.alloc o
    (.object r, { s with heap })

/-- Replaces an object. -/
def write (r : Ref) (o : Object) : Session Unit :=
  modify fun s => { s with heap := s.heap.write r o }

/-- Keeps a datum under a name. -/
def keep (name : String) (d : Datum) : Session Unit :=
  modify fun s => { s with names := (name, d) :: s.names.filter (·.1 != name) }

/-- A computation that gives notices, as an operation. -/
def logged {α : Type} (x : Logged α) : Session α := do
  let (result, notices) := x.outcome
  modify fun s => { s with notices := s.notices ++ notices }
  result

/-- A computation that makes objects, with ids from the common sequence or, if that is not wanted or
there is none, from a new one. -/
def drafted {α : Type} (common : Bool) (x : Drafting α) : Session α := do
  let s ← get
  let shared := if common then s.nextId else none
  let (result, draft) :=
    x.run { heap := s.heap, nextId := shared.getD 1, notices := s.notices }
  set { s with
    heap := draft.heap
    notices := draft.notices
    nextId := if shared.isSome then some draft.nextId else s.nextId }
  result

/-! ## Paths and new data -/

/-- The item of a list at an index, counted from the end if it is negative. -/
def itemAt (items : List Datum) (i : Int) : Except Fault Datum :=
  let place := if i < 0 then i + items.length else i
  if place < 0 then .error .noSuchIndex
  else
    match items[place.toNat]? with
    | some d => .ok d
    | none => .error .noSuchIndex

/-- The datum one step from another. -/
def follow (h : Heap) (d : Datum) : PathStep → Except Fault Datum
  | .field name => h.member d name
  | .index i =>
    match h.object? d with
    | some (.list items) => itemAt items i
    | some (.mapping _) => .error .noSuchName
    | _ => .error .wrongKind

/-- The datum at a path. -/
def resolve (name : String) (path : List PathStep) : Session Datum := do
  let s ← get
  match fieldOf? s.names name with
  | none => throw .noSuchName
  | some d => path.foldlM (fun d step => (follow s.heap d step : Except Fault Datum)) d

mutual

/-- New data, with objects for the lists and mappings in it. -/
def create : Outline → Session Datum
  | .value v => return .value v
  | .list items => do alloc (.list (← createItems items))
  | .mapping entries => do alloc (.mapping (← createEntries entries))
  | .at name path => resolve name path

/-- The items of a new list. -/
def createItems : List Outline → Session (List Datum)
  | [] => return []
  | o :: rest => do
    let d ← create o
    return d :: (← createItems rest)

/-- The entries of a new mapping. -/
def createEntries : List (Value × Outline) → Session (List (Value × Datum))
  | [] => return []
  | (k, o) :: rest => do
    let d ← create o
    return (k, d) :: (← createEntries rest)

end

/-! ## Making entities -/

/-- Starts a sequence of ids. -/
def start (first : Int) : Session Unit :=
  modify fun s => { s with nextId := some first }

/-- Draws the next id of the common sequence. -/
def drawId : Session Int := do
  match (← get).nextId with
  | none => throw (.noMember "NoneType" "next_id")
  | some n =>
    modify fun s => { s with nextId := some (n + 1) }
    return n

/-- Builds an entity from options and keeps it, and says whether it is the one that was given. -/
def build (kind : Kind) (options : Datum) (name : String) (common : Bool) :
    Session (Datum × Bool) := do
  let d ← drafted common (draft kind options)
  keep name d
  match options, d with
  | .object r, .object s => return (d, r == s)
  | _, _ => return (d, false)

/-- Makes an entity with some fields and keeps it. -/
def make (kind : Kind) (fields : List (String × Datum)) (name : String) : Session Datum := do
  let d ← drafted false (blank kind fields)
  keep name d
  return d

/-! ## Fields and options of an entity -/

/-- Sets a field of an entity to a datum. -/
def assign (d : Datum) (name : String) (x : Datum) : Session Unit :=
  drafted false (Drafting.assign d name x)

/-- Sets the fields of an entity that options hold, but no lists. -/
def setAll (d options : Datum) : Session Unit :=
  drafted false (Drafting.setAll d options)

/-- Adds to the lists of an entity what options hold for them. Ids come from one sequence for all of
them: without a common one, from one that is started for this operation alone. -/
def addAll (d options : Datum) : Session Unit :=
  drafted true (Drafting.addAll draft d options)

/-- The option of a field of an entity, null if options do not hold it. -/
def getOption (d options : Datum) (name : String) : Session Datum :=
  drafted false (Drafting.getOption d options name)

/-- Puts a datum into options as the option of a field, in place of one under a further name. -/
def putOption (d options : Datum) (name : String) (x : Datum) : Session Unit :=
  drafted false (Drafting.putOption d options name x)

/-- The names that options can use for the fields of an entity, sorted. -/
def optionNames (d : Datum) : Session (List String) := do
  let (_, kind, _) ← drafted false (Drafting.entity d "_option_names")
  return kind.optionNames.mergeSort fun a b => decide (a ≤ b)

/-! ## Settings, checking and compiling -/

/-- Takes settings from a datum. -/
def configure (d : Datum) : Session Settings := do
  let settings ← Settings.ofValue ((← heap).value d)
  modify fun s => { s with settings }
  return settings

/-- Overrides settings. -/
def override (changes : List (String × Datum)) : Session Settings := do
  let s ← get
  let settings ← s.settings.override (changes.map fun c => (c.1, s.heap.value c.2))
  set { s with settings }
  return settings

/-- The test that a datum is or has the options of. -/
def testAt (d : Datum) : Session Datum := do
  let h ← heap
  match h.object? d with
  | some (.entity .test _) => return d
  | some (.mapping _) => drafted false (draft .test d)
  | _ => throw (.notATest (h.kindName d))

/-- Compiles a test with the settings of the workspace. -/
def compile (d : Datum) : Session String := do
  let t ← testAt d
  let s ← get
  logged (s.heap.toXml s.settings t)

/-- The name of the file for a test, which must compile. -/
def fileName (d : Datum) : Session String := do
  let t ← testAt d
  let s ← get
  discard (logged (s.heap.toXml s.settings t))
  return (s.heap.value (← s.heap.member t "name")).display ++ ".jmx"

/-- The issues of a test. -/
def lint (d : Datum) : Session Lint.Report := do
  logged ((← heap).check d)

/-- The endpoint of a request. -/
def endpoint (d : Datum) : Session Endpoint := do
  logged ((← heap).endpoint d)

end Session

end Workspace

end LoadPlan
