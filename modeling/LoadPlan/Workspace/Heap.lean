import LoadPlan.Scenario.Schema
import LoadPlan.Value.Order
import LoadPlan.Value.Printer

/-!
# Objects with identity

While a test is edited by hand, its entities, lists and mappings are objects: the same object can
be a part of several others, and a change of it shows in all of them. A heap holds the objects in
the order in which they were made; what is held in a field or a list is a datum, a value without
parts or a reference to an object.
-/

namespace LoadPlan.Workspace

/-- The place of an object in the heap. -/
abbrev Ref := Nat

/-- What a field, a list or a mapping holds: a value without parts, or an object. -/
inductive Datum where
  | value (v : Value)
  | object (r : Ref)
  deriving Inhabited, Repr

/-- An object. -/
inductive Object where
  /-- An entity of a kind, with its fields under their names. -/
  | entity (kind : Kind) (fields : List (String × Datum))
  | list (items : List Datum)
  | mapping (entries : List (Value × Datum))
  deriving Inhabited, Repr

/-- The objects, in the order in which they were made. -/
structure Heap where
  objects : List Object := []
  deriving Inhabited, Repr

/-- The datum under a name. -/
def fieldOf? (fields : List (String × Datum)) (name : String) : Option Datum :=
  (fields.find? (·.1 == name)).map (·.2)

/-- The datum under a key that is a text. -/
def entryOf? (entries : List (Value × Datum)) (key : String) : Option Datum :=
  (entries.find? (·.1.isText key)).map (·.2)

/-- Null as a datum. -/
def Datum.null : Datum :=
  .value .null

/-- Whether a datum is null. -/
def Datum.isNull : Datum → Bool
  | .value v => v.isNull
  | .object _ => false

namespace Heap

/-- The object at a place. -/
def get? (h : Heap) (r : Ref) : Option Object :=
  h.objects[r]?

/-- The heap with a further object, and its place. -/
def alloc (h : Heap) (o : Object) : Heap × Ref :=
  (⟨h.objects ++ [o]⟩, h.objects.length)

/-- The heap with the object at a place replaced. -/
def write (h : Heap) (r : Ref) (o : Object) : Heap :=
  ⟨h.objects.set r o⟩

/-- The object that a datum refers to. -/
def object? (h : Heap) : Datum → Option Object
  | .value _ => none
  | .object r => h.get? r

/-- The fields of a datum that is an entity of a kind. -/
def entity? (h : Heap) (kind : Kind) (d : Datum) : Option (List (String × Datum)) :=
  match h.object? d with
  | some (.entity k fields) => if k == kind then some fields else none
  | _ => none

/-- The field of an entity, null if there is none. -/
def part (fields : List (String × Datum)) (name : String) : Datum :=
  (fieldOf? fields name).getD .null

/-- Whether a datum counts as given: every entity does, and what is not empty. -/
def isTruthy (h : Heap) (d : Datum) : Bool :=
  match d with
  | .value v => v.isTruthy
  | .object r =>
    match h.get? r with
    | some (.list items) => !items.isEmpty
    | some (.mapping entries) => !entries.isEmpty
    | _ => true

/-- The name of the kind of a datum, as messages give it. -/
def kindName (h : Heap) (d : Datum) : String :=
  match d with
  | .value v => v.kind
  | .object r =>
    match h.get? r with
    | some (.entity kind _) => kind.name
    | some (.list _) => "list"
    | some (.mapping _) => "dict"
    | none => "NoneType"

/-- Whether a datum is a list. -/
def isList (h : Heap) (d : Datum) : Bool :=
  match h.object? d with
  | some (.list _) => true
  | _ => false

/-! ## Data as values -/

/-- The text of an entity inside lists and messages. -/
def entityLiteral (kind : Kind) (fields : List (String × Value)) : String :=
  kind.name ++ "(" ++
    String.intercalate ", " (fields.map fun f => f.1 ++ "=" ++ f.2.literal) ++ ")"

/-- The value of a datum with all its parts, down to a depth. An entity is a value of a kind of its
own, with only a text. -/
def valueTo (h : Heap) : Nat → Datum → Value
  | _, .value v => v
  | 0, .object _ => .null
  | depth + 1, .object r =>
    match h.get? r with
    | none => .null
    | some (.list items) => .list (items.map (h.valueTo depth))
    | some (.mapping entries) => .mapping (entries.map fun e => (e.1, h.valueTo depth e.2))
    | some (.entity kind fields) =>
      let shown := kind.fields.map fun f =>
        (f.name, h.valueTo depth ((fieldOf? fields f.name).getD .null))
      let literal := entityLiteral kind shown
      .other kind.name literal literal

/-- A depth that no chain of different objects exceeds. -/
def depth (h : Heap) : Nat :=
  h.objects.length + 1

/-- The value of a datum with all its parts. -/
def value (h : Heap) (d : Datum) : Value :=
  h.valueTo h.depth d

/-! ## Equality -/

mutual

/-- Whether two data are equal down to a depth: the same object, or equal in all their parts. -/
def sameTo (h : Heap) : Nat → Datum → Datum → Bool
  | _, .value v, .value w => v.same w
  | 0, _, _ => false
  | depth + 1, .object r, .object s =>
    r == s ||
      match h.get? r, h.get? s with
      | some (.list xs), some (.list ys) => h.sameItems depth xs ys
      | some (.mapping xs), some (.mapping ys) =>
        xs.length == ys.length && h.sameEntries depth xs ys
      | some (.entity j xs), some (.entity k ys) =>
        j == k && h.sameFields depth (j.fields.map (·.name)) xs ys
      | _, _ => false
  | _, _, _ => false

/-- Whether two lists have equal items. -/
def sameItems (h : Heap) : Nat → List Datum → List Datum → Bool
  | _, [], [] => true
  | depth, x :: xs, y :: ys => h.sameTo depth x y && h.sameItems depth xs ys
  | _, _, _ => false

/-- Whether each entry of the first mapping has an equal one in the second. -/
def sameEntries (h : Heap) :
    Nat → List (Value × Datum) → List (Value × Datum) → Bool
  | _, [], _ => true
  | depth, (k, x) :: xs, ys =>
    (match ys.find? fun e => k.sameKey e.1 with
    | some (_, y) => h.sameTo depth x y
    | none => false) && h.sameEntries depth xs ys

/-- Whether two entities have equal fields of some names. -/
def sameFields (h : Heap) :
    Nat → List String → List (String × Datum) → List (String × Datum) → Bool
  | _, [], _, _ => true
  | depth, name :: names, xs, ys =>
    h.sameTo depth ((fieldOf? xs name).getD .null) ((fieldOf? ys name).getD .null) &&
      h.sameFields depth names xs ys

end

/-- Whether two data are equal. -/
def same (h : Heap) (d e : Datum) : Bool :=
  h.sameTo h.depth d e

end Heap

end LoadPlan.Workspace
