import LoadPlan.Number.Order

/-!
# Values

The values that options hold: what a scenario document of nested mappings and lists is made of.
A mapping keeps its entries in the order in which their keys first appeared, and its keys need not
be texts.
-/

namespace LoadPlan

/-- A value of a scenario document. -/
inductive Value where
  | null
  | bool (b : Bool)
  | int (n : Int)
  | float (x : Binary64)
  | text (s : String)
  | list (items : List Value)
  | mapping (entries : List (Value × Value))
  /-- A value of another kind, such as a date: the name of its kind, its text, and its text inside
  a list or mapping. -/
  | other (kind display literal : String)
  deriving Inhabited, Repr

namespace Value

/-- The name of a value's kind, as messages give it. -/
def kind : Value → String
  | .null => "NoneType"
  | .bool _ => "bool"
  | .int _ => "int"
  | .float _ => "float"
  | .text _ => "str"
  | .list _ => "list"
  | .mapping _ => "dict"
  | .other kind _ _ => kind

/-- Whether a value counts as given: null, false, zero and whatever is empty do not. -/
def isTruthy : Value → Bool
  | .null => false
  | .bool b => b
  | .int n => n != 0
  | .float x => x.isTruthy
  | .text s => !s.isEmpty
  | .list items => !items.isEmpty
  | .mapping entries => !entries.isEmpty
  | .other .. => true

/-- Whether a value is null. -/
def isNull : Value → Bool
  | .null => true
  | _ => false

/-- Whether a value is the text `s`. -/
def isText (v : Value) (s : String) : Bool :=
  match v with
  | .text t => t == s
  | _ => false

/-- The number that a value stands for; the truth values count as one and zero. -/
def number? : Value → Option Number
  | .bool b => some (.int (if b then 1 else 0))
  | .int n => some (.int n)
  | .float x => some (.float x)
  | _ => none

/-- A value if it is given, else another. -/
def orElse (v w : Value) : Value :=
  if v.isTruthy then v else w

end Value

/-- The entries of a mapping. -/
abbrev Entries := List (Value × Value)

namespace Entries

/-- The value of a key. -/
def find? (entries : Entries) (key : String) : Option Value :=
  (List.find? (fun e => e.1.isText key) entries).map (·.2)

/-- The value of a key, null when the key is absent. -/
def get (entries : Entries) (key : String) : Value :=
  (entries.find? key).getD .null

/-- Whether a key is present. -/
def has (entries : Entries) (key : String) : Bool :=
  (entries.find? key).isSome

/-- The entries with the value of a key replaced, or the key added at the end. -/
def insert (entries : Entries) (key : String) (value : Value) : Entries :=
  if entries.has key then entries.map fun e => if e.1.isText key then (e.1, value) else e
  else entries ++ [(.text key, value)]

/-- The entries without a key. -/
def erase (entries : Entries) (key : String) : Entries :=
  entries.filter fun e => !e.1.isText key

end Entries

end LoadPlan
