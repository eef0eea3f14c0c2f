/-!
# Binary floating point numbers

A 64-bit floating point number is kept decoded, as a sign, a mantissa and a power of two, so that
every operation on it is exact arithmetic on integers. `ofRatio` rounds a quotient to the nearest
number, a tie going to the even mantissa; all other ways to make a number go through it.
-/

namespace LoadPlan

/-- A binary floating point number: `mantissa * 2 ^ exponent` with a sign, or one of the three
values without digits. In a number made by `ofRatio` the mantissa is below `2 ^ 53`, the exponent
is between -1074 and 971, and the mantissa is at least `2 ^ 52` or the exponent is -1074. -/
inductive Binary64 where
  | nan
  | infinite (negative : Bool)
  | finite (negative : Bool) (mantissa : Nat) (exponent : Int)
  deriving DecidableEq, Repr

namespace Binary64

/-- The integer nearest to `num / den`, a tie going to the even one. -/
def roundDiv (num den : Nat) : Nat :=
  let q := num / den
  let r := num % den
  if den < 2 * r || (2 * r == den && q % 2 == 1) then q + 1 else q

/-- The integer nearest to `num / den / 2 ^ exponent`. -/
def scaledDiv (num den : Nat) (exponent : Int) : Nat :=
  roundDiv (num * Nat.pow 2 (-exponent).toNat) (den * Nat.pow 2 exponent.toNat)

/-- The exponent at which `num / den` has a mantissa of 53 bits, or the least exponent. -/
def exponentOf (num den : Nat) : Int :=
  let guess := max (-1074) ((num.log2 : Int) - den.log2 - 52)
  let least := Nat.pow 2 52 * (den * Nat.pow 2 guess.toNat)
  if -1074 < guess && num * Nat.pow 2 (-guess).toNat < least then guess - 1 else guess

/-- The number nearest to `num / den`, for a positive `den`. -/
def ofRatio (negative : Bool) (num den : Nat) : Binary64 :=
  if num = 0 then .finite negative 0 (-1074)
  else
    let exponent := exponentOf num den
    let mantissa := scaledDiv num den exponent
    let carried := mantissa == Nat.pow 2 53
    let mantissa := if carried then Nat.pow 2 52 else mantissa
    let exponent := if carried then exponent + 1 else exponent
    if 971 < exponent then .infinite negative else .finite negative mantissa exponent

/-- The number nearest to an integer. -/
def ofInt (n : Int) : Binary64 :=
  ofRatio (n < 0) n.natAbs 1

/-- The number of decimal digits of a natural number. -/
def digitCount (n : Nat) : Nat :=
  (Nat.toDigits 10 n).length

/-- The number nearest to `digits * 10 ^ exponent`. Powers too large or too small for any number
are not computed. -/
def ofDecimal (negative : Bool) (digits : Nat) (exponent : Int) : Binary64 :=
  let size := (digitCount digits : Int) + exponent
  if digits = 0 || size < -400 then .finite negative 0 (-1074)
  else if 400 < size then .infinite negative
  else ofRatio negative (digits * Nat.pow 10 exponent.toNat) (Nat.pow 10 (-exponent).toNat)

/-- Whether the number is not zero; a number that is not one counts as such. -/
def isTruthy : Binary64 → Bool
  | .finite _ mantissa _ => mantissa != 0
  | _ => true

/-- The integer part of a finite number, toward zero. -/
def truncate? : Binary64 → Option Int
  | .finite negative mantissa exponent =>
    let size : Nat := mantissa * Nat.pow 2 exponent.toNat / Nat.pow 2 (-exponent).toNat
    some (if negative then -size else size)
  | _ => none

/-- The sum of two finite numbers as `scaled / 2 ^ 1074`, from which `add` rounds. -/
def scaled (negative : Bool) (mantissa : Nat) (exponent : Int) : Int :=
  let size : Nat := mantissa * Nat.pow 2 (exponent + 1074).toNat
  if negative then -size else size

/-- The sum of two numbers. -/
def add : Binary64 → Binary64 → Binary64
  | .finite s m e, .finite t n f =>
    let sum := scaled s m e + scaled t n f
    if sum = 0 then .finite (s && t) 0 (-1074) else ofRatio (sum < 0) sum.natAbs (Nat.pow 2 1074)
  | .infinite s, .infinite t => if s == t then .infinite s else .nan
  | .infinite s, .finite .. => .infinite s
  | .finite .., .infinite t => .infinite t
  | _, _ => .nan

/-- The product of a number and a natural number. -/
def scale (x : Binary64) (n : Nat) : Binary64 :=
  match x with
  | .finite s m e => ofRatio s (m * n * Nat.pow 2 e.toNat) (Nat.pow 2 (-e).toNat)
  | other => other

/-- A number with its sign turned. -/
def negate : Binary64 → Binary64
  | .finite s m e => .finite (!s) m e
  | .infinite s => .infinite (!s)
  | .nan => .nan

end Binary64

end LoadPlan
