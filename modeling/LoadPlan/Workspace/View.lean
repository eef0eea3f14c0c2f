import LoadPlan.Fault
import LoadPlan.Scenario.Basic
import LoadPlan.Workspace.Heap

/-!
# What an object looks like

A view of a datum shows all its parts and, for entities, what they say about themselves: whether
they are valid, whether a request is a GET, and whether a body is made of entries. Fields can have
been set to anything, so each of these can be a fault.
-/

namespace LoadPlan.Workspace

/-- A datum with all its parts. -/
inductive View where
  | value (v : Value)
  | list (items : List View)
  | mapping (entries : List (Value × View))
  | entity (kind : Kind) (fields : List (String × View)) (valid : Except Fault Bool)
      (get : Option (Except Fault Bool)) (keyValue : Option Bool)
  deriving Inhabited

namespace Heap

/-- The data that are met in going through a datum: the items of a list, the keys of a mapping, the
characters of a text. -/
def iterate (h : Heap) (d : Datum) : Except Fault (List Datum) :=
  match h.object? d, d with
  | some (.list items), _ => .ok items
  | some (.mapping entries), _ => .ok (entries.map fun e => .value e.1)
  | _, .value (.text s) => .ok (s.toList.map fun c => .value (.text (String.singleton c)))
  | _, _ => .error .wrongKind

/-- The field of an entity of any kind. -/
def member (h : Heap) (d : Datum) (name : String) : Except Fault Datum :=
  match h.object? d with
  | some (.entity kind fields) =>
    match fieldOf? fields name with
    | some x => .ok x
    | none => .error (.noMember kind.name name)
  | _ => .error (.noMember (h.kindName d) name)

/-- Whether a field of an entity is given. -/
def isGiven (h : Heap) (fields : List (String × Datum)) (name : String) : Bool :=
  h.isTruthy ((fieldOf? fields name).getD .null)

/-- Whether the type of a body says that it is made of entries. -/
def isKeyValue (h : Heap) (fields : List (String × Datum)) : Bool :=
  (h.value ((fieldOf? fields "type").getD .null)).isText "KeyValue"

/-- Whether a method of a request is GET. -/
def isGet (h : Heap) (fields : List (String × Datum)) : Except Fault Bool :=
  match (fieldOf? fields "method").getD .null with
  | .value v => LoadPlan.isGet v
  | d => if h.isTruthy d then .error (.noMember (h.kindName d) "upper") else .ok false

/-- Whether an entity is valid by the fields that it has itself; a body of entries is valid if one
of them is, which `entryValid` tells. -/
def isValidBy (h : Heap) (entryValid : Datum → Except Fault Bool) (kind : Kind)
    (fields : List (String × Datum)) : Except Fault Bool :=
  match kind with
  | .keyValue => .ok (h.isGiven fields "name" || h.isGiven fields "value")
  | .regex => .ok (h.isGiven fields "subject" && h.isGiven fields "expression")
  | .responseTime => .ok (h.isGiven fields "value")
  | .body =>
    if h.isKeyValue fields then do
      let entries ← h.iterate ((fieldOf? fields "kvs").getD .null)
      entries.anyM entryValid
    else .ok (h.isGiven fields "raw")
  | _ => .ok true

/-- Whether an entity is valid, looking into bodies down to a depth. -/
def isValidTo (h : Heap) : Nat → Datum → Except Fault Bool
  | 0, _ => .error .wrongKind
  | depth + 1, d =>
    match h.object? d with
    | some (.entity kind fields) => h.isValidBy (h.isValidTo depth) kind fields
    | _ => .error (.noMember (h.kindName d) "is_valid")

/-- Whether an entity is valid. -/
def isValid (h : Heap) (d : Datum) : Except Fault Bool :=
  h.isValidTo h.depth d

/-- The view of a datum down to a depth. -/
def viewTo (h : Heap) : Nat → Datum → View
  | _, .value v => .value v
  | 0, .object _ => .value .null
  | depth + 1, .object r =>
    match h.get? r with
    | none => .value .null
    | some (.list items) => .list (items.map (h.viewTo depth))
    | some (.mapping entries) => .mapping (entries.map fun e => (e.1, h.viewTo depth e.2))
    | some (.entity kind fields) =>
      .entity kind
        (kind.fields.map fun f => (f.name, h.viewTo depth ((fieldOf? fields f.name).getD .null)))
        (h.isValid (.object r))
        (if kind == .request then some (h.isGet fields) else none)
        (if kind == .body then some (h.isKeyValue fields) else none)

/-- The view of a datum. -/
def view (h : Heap) (d : Datum) : View :=
  h.viewTo h.depth d

/-- The valid ones of the entities in a list; what is not given counts as an empty list. -/
def validOnly (h : Heap) (d : Datum) : Except Fault (List Datum) := do
  if !h.isTruthy d then return []
  (← h.iterate d).filterM h.isValid

end Heap

end LoadPlan.Workspace
