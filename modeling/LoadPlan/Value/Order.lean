import LoadPlan.Number.Reader
import LoadPlan.Value.Basic

/-!
# Equality and order of values

Values are equal when they are equal numbers, of whatever kind, equal texts, or lists or mappings
with equal parts; the order of a mapping's entries does not matter. Only the keys of a mapping are
ever sorted, and they must be all numbers, all texts, or all values of one further kind.
-/

namespace LoadPlan.Value

/-- Whether two values that may be keys are equal. -/
def sameKey (v w : Value) : Bool :=
  match v, w with
  | .null, .null => true
  | .text s, .text t => s == t
  | .other k d _, .other l e _ => k == l && d == e
  | _, _ =>
    match v.number?, w.number? with
    | some m, some n => m.eq n
    | _, _ => false

mutual

/-- Whether two values are equal. -/
def same : Value → Value → Bool
  | .list xs, .list ys => sameItems xs ys
  | .mapping xs, .mapping ys => xs.length == ys.length && sameEntries xs ys
  | v, w => sameKey v w

/-- Whether two lists have equal items. -/
def sameItems : List Value → List Value → Bool
  | [], [] => true
  | x :: xs, y :: ys => same x y && sameItems xs ys
  | _, _ => false

/-- Whether each entry of the first mapping has an equal one in the second. -/
def sameEntries : List (Value × Value) → List (Value × Value) → Bool
  | [], _ => true
  | (k, v) :: xs, ys =>
    (match List.find? (fun e => sameKey k e.1) ys with
    | some (_, w) => same v w
    | none => false) && sameEntries xs ys

end

/-- Whether a key comes before another; nothing if the two have no order. -/
def keyBefore? (v w : Value) : Option Bool :=
  match v, w with
  | .text s, .text t => some (decide (s < t))
  | .other k d _, .other l e _ => if k == l then some (decide (d < e)) else none
  | _, _ =>
    match v.number?, w.number? with
    | some m, some n => some (m.lt n)
    | _, _ => none

/-- Whether every two of the keys have an order. -/
def comparable : List Value → Bool
  | [] => true
  | v :: rest => rest.all (fun w => (keyBefore? v w).isSome) && comparable rest

/-- The keys in increasing order, if every two of them have an order. -/
def sortKeys? (keys : List Value) : Option (List Value) :=
  if comparable keys then
    some (keys.mergeSort fun v w => keyBefore? w v != some true)
  else none

/-- Why a value is no integer. -/
inductive NoInteger where
  /-- A value of a kind that has no integer. -/
  | wrongKind
  /-- A text or number without an integer. -/
  | malformed
  /-- An infinite number. -/
  | infinite
  deriving DecidableEq, Repr

/-- The integer of a value: a number without its fraction, or the integer that a text writes. -/
def toInteger : Value → Except NoInteger Int
  | .bool b => .ok (if b then 1 else 0)
  | .int n => .ok n
  | .float .nan => .error .malformed
  | .float x =>
    match x.truncate? with
    | some n => .ok n
    | none => .error .infinite
  | .text s =>
    match Number.integer? s with
    | some n => .ok n
    | none => .error .malformed
  | _ => .error .wrongKind

end LoadPlan.Value
