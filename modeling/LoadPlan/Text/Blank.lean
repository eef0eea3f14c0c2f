import LoadPlan.Text.Digit

/-!
# White space

Three sets of white space are in use: the white space of Unicode with the four separator controls,
which is what a name sheds at its start; the six blanks of ASCII, which surround a number; and the
controls and the space, which a URL sheds at its start.
-/

namespace LoadPlan.Text

/-- White space of Unicode, and the separator controls from file to unit separator. -/
def isBlank (c : Char) : Bool :=
  let n := c.toNat
  (9 ≤ n && n ≤ 13) || (28 ≤ n && n ≤ 32) || n == 0x85 || n == 0xa0 || n == 0x1680 ||
    (0x2000 ≤ n && n ≤ 0x200a) || n == 0x2028 || n == 0x2029 || n == 0x202f || n == 0x205f ||
    n == 0x3000

/-- A blank of ASCII: the space and the controls from tab to carriage return. -/
def isAsciiBlank (c : Char) : Bool :=
  c.toNat == 32 || (9 ≤ c.toNat && c.toNat ≤ 13)

/-- A control character or the space. -/
def isControlOrSpace (c : Char) : Bool :=
  c.toNat ≤ 32

/-- A digit of ASCII. -/
def isAsciiDigit (c : Char) : Bool :=
  48 ≤ c.toNat && c.toNat ≤ 57

/-- A text without the white space it starts with. -/
def trimLeft (s : String) : String :=
  String.ofList (s.toList.dropWhile isBlank)

/-- Characters without those at either end that satisfy `p`. -/
def trimBoth (p : Char → Bool) (cs : List Char) : List Char :=
  ((cs.dropWhile p).reverse.dropWhile p).reverse

/-- The character of ASCII that a number's text has in place of `c`: digits of other scripts are
read as digits and other white space as a space. -/
def numeralChar (c : Char) : Char :=
  if c.toNat < 127 then c
  else if isBlank c then ' '
  else
    match digitValue? c with
    | some d => Char.ofNat (48 + d)
    | none => '?'

end LoadPlan.Text
