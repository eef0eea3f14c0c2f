import LoadPlan.Number.Binary64
import LoadPlan.Text.Blank

/-!
# Numbers in texts

Readers for integers and floating point numbers written in decimal. Both allow blanks around the
number, a sign, digits of any script and single underscores between digits.
-/

namespace LoadPlan

namespace Number

open Text

/-- The longest run of digits that is read or written as an integer. -/
def maxDigits : Nat := 4300

/-- The value of a run of digits of ASCII. -/
def ofDigits (cs : List Char) : Nat :=
  cs.foldl (fun n c => 10 * n + (c.toNat - 48)) 0

/-- Whether `cs` is a run of digits with single underscores between them. -/
def isDigitRun (cs : List Char) : Bool :=
  (cs.splitOn '_').all fun g => !g.isEmpty && g.all isAsciiDigit

/-- Whether a sign is negative, and what follows it. -/
def takeSign : List Char → Bool × List Char
  | '-' :: rest => (true, rest)
  | '+' :: rest => (false, rest)
  | cs => (false, cs)

/-- The integer that a text writes in decimal. -/
def integer? (s : String) : Option Int :=
  let (negative, cs) := takeSign (trimBoth isAsciiBlank (s.toList.map numeralChar))
  let digits := cs.filter (· != '_')
  if isDigitRun cs && digits.length ≤ maxDigits then
    some (if negative then -(ofDigits digits : Int) else ofDigits digits)
  else none

/-- The exponent that follows a mantissa: nothing, or a letter e and digits with an optional
sign. -/
def exponent? : List Char → Option Int
  | [] => some 0
  | c :: rest =>
    if c = 'e' || c = 'E' then
      let (negative, digits) := takeSign rest
      if !digits.isEmpty && digits.all isAsciiDigit then
        some (if negative then -(ofDigits digits : Int) else ofDigits digits)
      else none
    else none

/-- The number that plain digits with an optional point and exponent write. -/
def unsigned? (negative : Bool) (cs : List Char) : Option Binary64 :=
  let whole := cs.takeWhile isAsciiDigit
  let rest := cs.dropWhile isAsciiDigit
  let (fraction, rest) :=
    match rest with
    | '.' :: more => (more.takeWhile isAsciiDigit, more.dropWhile isAsciiDigit)
    | _ => ([], rest)
  if whole.isEmpty && fraction.isEmpty then none
  else (exponent? rest).map fun e =>
    .ofDecimal negative (ofDigits (whole ++ fraction)) (e - fraction.length)

/-- Whether every underscore stands between two digits. -/
def underscoresBetweenDigits : List Char → Bool
  | [] => true
  | '_' :: _ => false
  | c :: '_' :: d :: rest =>
    isAsciiDigit c && isAsciiDigit d && underscoresBetweenDigits (d :: rest)
  | _ :: ['_'] => false
  | _ :: rest => underscoresBetweenDigits rest

/-- The floating point number that a text writes. -/
def float? (s : String) : Option Binary64 :=
  let cs := trimBoth isAsciiBlank (s.toList.map numeralChar)
  if !underscoresBetweenDigits cs then none
  else
    let (negative, body) := takeSign (cs.filter (· != '_'))
    let word := String.ofList (body.map Char.toLower)
    if word = "nan" then some .nan
    else if word = "inf" || word = "infinity" then some (.infinite negative)
    else unsigned? negative body

end Number

end LoadPlan
