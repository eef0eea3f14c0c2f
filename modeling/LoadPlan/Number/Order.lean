import LoadPlan.Number.Binary64

/-!
# The order of numbers

Integers and floating point numbers are compared by their exact values, so no integer is rounded on
the way. A floating point value that is not a number is neither below, above nor equal to any.
-/

namespace LoadPlan

/-- A number of either kind. -/
inductive Number where
  | int (n : Int)
  | float (x : Binary64)

namespace Number

/-- The order of `a * 2 ^ i` and `b * 2 ^ j`. -/
def compareDyadic (a : Int) (i : Int) (b : Int) (j : Int) : Ordering :=
  compare (a * Nat.pow 2 (i - min i j).toNat) (b * Nat.pow 2 (j - min i j).toNat)

/-- The signed mantissa of a finite number. -/
def signed (negative : Bool) (mantissa : Nat) : Int :=
  if negative then -(mantissa : Int) else mantissa

/-- Where a number stands: below all finite ones, above all, at `mantissa * 2 ^ exponent`, or
nowhere. -/
inductive Place where
  | below
  | above
  | at (mantissa exponent : Int)
  | nowhere

/-- The place of a number. -/
def place : Number → Place
  | .int n => .at n 0
  | .float (.finite negative mantissa exponent) => .at (signed negative mantissa) exponent
  | .float (.infinite true) => .below
  | .float (.infinite false) => .above
  | .float .nan => .nowhere

/-- The order of two numbers, if they have one. -/
def order (x y : Number) : Option Ordering :=
  match x.place, y.place with
  | .nowhere, _ => none
  | _, .nowhere => none
  | .below, .below => some .eq
  | .below, _ => some .lt
  | _, .below => some .gt
  | .above, .above => some .eq
  | .above, _ => some .gt
  | _, .above => some .lt
  | .at a i, .at b j => some (compareDyadic a i b j)

/-- Whether the first number is below the second. -/
def lt (x y : Number) : Bool :=
  x.order y == some .lt

/-- Whether two numbers are equal. -/
def eq (x y : Number) : Bool :=
  x.order y == some .eq

end Number

end LoadPlan
