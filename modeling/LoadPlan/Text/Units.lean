/-!
# Sixteen-bit units and the hash of a text

A character outside the basic plane counts as two units, its surrogates. The hash of a text is the
polynomial with coefficient 31 over its units, in 32 bits with a sign; test strings are named by it.
-/

namespace LoadPlan.Text

/-- The 16-bit units of a character. -/
def units (c : Char) : List Nat :=
  let n := c.toNat
  if n < 0x10000 then [n]
  else [0xd800 + (n - 0x10000) / 0x400, 0xdc00 + (n - 0x10000) % 0x400]

/-- The hash after one more unit. -/
def hashStep (h : BitVec 32) (u : Nat) : BitVec 32 :=
  31 * h + BitVec.ofNat 32 u

/-- The hash of a text, between `-2 ^ 31` and `2 ^ 31 - 1`. -/
def hash (s : String) : Int :=
  ((s.toList.flatMap units).foldl hashStep 0).toInt

end LoadPlan.Text
