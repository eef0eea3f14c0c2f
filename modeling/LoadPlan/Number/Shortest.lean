import LoadPlan.Number.Binary64

/-!
# The shortest decimal of a number

Every finite number stands for the interval of reals that round to it. `shortest` selects the
decimal with the fewest digits in that interval, and of those the one nearest to the number.
`FloatLayout` says how the digits are laid out as text.
-/

namespace LoadPlan.Binary64

/-- The decimal `digits * 10 ^ exponent`. -/
structure Decimal where
  digits : Nat
  exponent : Int
  deriving DecidableEq, Repr

/-- Compares `a * 10 ^ i` with `n * 2 ^ j`. -/
def compareScaled (a : Nat) (i : Int) (n : Nat) (j : Int) : Ordering :=
  compare (a * Nat.pow 10 i.toNat * Nat.pow 2 (-j).toNat)
    (n * Nat.pow 2 j.toNat * Nat.pow 10 (-i).toNat)

/-- Whether a decimal lies in the interval of reals that round to `mantissa * 2 ^ exponent`. The
ends belong to it when the mantissa is even, and the lower end is half as far away when the number
below has a smaller exponent. -/
def readsBack (mantissa : Nat) (exponent : Int) (d : Decimal) : Bool :=
  let narrow := mantissa == Nat.pow 2 52 && -1074 < exponent
  let lower := if narrow then 4 * mantissa - 1 else 4 * mantissa - 2
  let upper := 4 * mantissa + 2
  let closed := mantissa % 2 == 0
  let fromLower := compareScaled d.digits d.exponent lower (exponent - 2)
  let toUpper := compareScaled d.digits d.exponent upper (exponent - 2)
  (fromLower == .gt || (closed && fromLower == .eq)) &&
    (toUpper == .lt || (closed && toUpper == .eq))

/-- The place of the decimal point: the least `k` with `mantissa * 2 ^ exponent < 10 ^ k`, for a
positive mantissa. -/
def decimalPoint (mantissa : Nat) (exponent : Int) : Int :=
  let shifted := mantissa * Nat.pow 2 exponent.toNat * Nat.pow 10 330 / Nat.pow 2 (-exponent).toNat
  (digitCount shifted : Int) - 330

/-- The candidate with `count` digits: of the two neighbours on the grid of that many digits, the
nearer one that reads back. -/
def candidate? (mantissa : Nat) (exponent point : Int) (count : Nat) :
    Option Decimal :=
  let grid := point - count
  let below := mantissa * Nat.pow 2 exponent.toNat * Nat.pow 10 (-grid).toNat /
    (Nat.pow 2 (-exponent).toNat * Nat.pow 10 grid.toNat)
  let low : Decimal := ⟨below, grid⟩
  let high : Decimal := ⟨below + 1, grid⟩
  match readsBack mantissa exponent low, readsBack mantissa exponent high with
  | true, false => some low
  | false, true => some high
  | false, false => none
  | true, true =>
    match compareScaled (2 * below + 1) grid (2 * mantissa) exponent with
    | .gt => some low
    | .lt => some high
    | .eq => some (if below % 2 == 0 then low else high)

/-- A decimal without trailing zeros. -/
def Decimal.strip (d : Decimal) : Decimal :=
  if h : d.digits ≠ 0 ∧ d.digits % 10 = 0 then
    Decimal.strip ⟨d.digits / 10, d.exponent + 1⟩
  else d
termination_by d.digits
decreasing_by omega

/-- The shortest decimal that reads back as `mantissa * 2 ^ exponent`, for a positive mantissa. -/
def shortest (mantissa : Nat) (exponent : Int) : Decimal :=
  let point := decimalPoint mantissa exponent
  match (List.range 17).findSome? fun n => candidate? mantissa exponent point (n + 1) with
  | some d => d.strip
  | none => ⟨mantissa * Nat.pow 2 exponent.toNat * Nat.pow 5 (-exponent).toNat, min exponent 0⟩

/-- How the text of a number is laid out. -/
structure FloatLayout where
  /-- The least place of the decimal point written without an exponent. -/
  positionalFrom : Int
  /-- The greatest place of the decimal point written without an exponent. -/
  positionalTo : Int
  /-- The least number of digits of an exponent. -/
  exponentWidth : Nat
  /-- The text of a number that is not one. -/
  nan : String
  /-- The text of infinity without its sign. -/
  infinity : String

/-- A sign, or nothing. -/
def signText (negative : Bool) : String :=
  if negative then "-" else ""

/-- Digits with the decimal point at `point`, and at least one digit on either side of it. -/
def positional (digits : String) (point : Int) : String :=
  let count := digits.length
  if point ≤ 0 then "0." ++ String.ofList (List.replicate (-point).toNat '0') ++ digits
  else if (count : Int) ≤ point then
    digits ++ String.ofList (List.replicate (point.toNat - count) '0') ++ ".0"
  else
    String.ofList (digits.toList.take point.toNat) ++ "." ++
      String.ofList (digits.toList.drop point.toNat)

/-- Digits with the decimal point after the first, and an exponent. -/
def scientific (width : Nat) (digits : String) (point : Int) : String :=
  let exponent := point - 1
  let size := toString exponent.natAbs
  let padded := String.ofList (List.replicate (width - size.length) '0') ++ size
  let rest := String.ofList (digits.toList.drop 1)
  String.ofList (digits.toList.take 1) ++ (if rest.isEmpty then "" else "." ++ rest) ++
    "e" ++ (if exponent < 0 then "-" else "+") ++ padded

/-- The text of a number in a layout. -/
def render (layout : FloatLayout) : Binary64 → String
  | .nan => layout.nan
  | .infinite negative => signText negative ++ layout.infinity
  | .finite negative 0 _ => signText negative ++ "0.0"
  | .finite negative mantissa exponent =>
    let d := shortest mantissa exponent
    let digits := toString d.digits
    let point := (digits.length : Int) + d.exponent
    signText negative ++
      (if layout.positionalFrom ≤ point && point ≤ layout.positionalTo then positional digits point
       else scientific layout.exponentWidth digits point)

end LoadPlan.Binary64
