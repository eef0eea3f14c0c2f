/-!
# Sets of characters as sorted boundaries

A set of code points is kept as the increasing list of the points where membership changes, so a
point belongs to the set exactly when the number of boundaries at or below it is odd.
-/

namespace LoadPlan.Text.Ranges

/-- The number of entries of the increasing array `bounds` at or below `x`, among those with an
index from `low` to `high`, plus `low`. -/
def countFrom (bounds : Array Nat) (x : Nat) (low high : Nat) : Nat :=
  if h : low < high then
    let mid := (low + high) / 2
    if bounds.getD mid 0 ≤ x then countFrom bounds x (mid + 1) high
    else countFrom bounds x low mid
  else low
termination_by high - low

/-- The number of entries of the increasing array `bounds` at or below `x`. -/
def countLE (bounds : Array Nat) (x : Nat) : Nat :=
  countFrom bounds x 0 bounds.size

/-- Whether `x` is in the set whose membership changes at `bounds`. -/
def mem (bounds : Array Nat) (x : Nat) : Bool :=
  countLE bounds x % 2 == 1

end LoadPlan.Text.Ranges
