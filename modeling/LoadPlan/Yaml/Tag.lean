import LoadPlan.Text.Digit
import LoadPlan.Text.Blank

/-!
# Tags of YAML

What a node stands for. A tag may be written; a plain scalar without one stands for what its text
looks like: a truth value, a number, a date, nothing at all, or a text.
-/

namespace LoadPlan.Yaml

/-- What a node stands for. -/
inductive Tag where
  | null
  | bool
  | int
  | float
  | timestamp
  /-- A key whose value is merged into the mapping that it stands in. -/
  | merge
  /-- The key of a value that stands for the whole mapping. -/
  | default
  | text
  | sequence
  | mapping
  /-- Something that this reader does not know. -/
  | unknown
  deriving DecidableEq, Repr, Inhabited

/-- A tag as it is written. -/
inductive WrittenTag where
  /-- The mark that asks to look at the text even if it is not plain. -/
  | plain
  | full (tag : Tag)
  deriving DecidableEq, Repr

namespace Tag

/-- What the tags that are known begin with. -/
def usualStart : String := "tag:yaml.org,2002:"

/-- The tag with a name. -/
def ofName : String → Tag
  | "null" => null
  | "bool" => bool
  | "int" => int
  | "float" => float
  | "timestamp" => timestamp
  | "merge" => merge
  | "value" => default
  | "str" => text
  | "seq" => sequence
  | "map" => mapping
  | _ => unknown

end Tag

/-- The tag that a full text writes. -/
def WrittenTag.ofText (s : String) : WrittenTag :=
  if s == "!" then .plain
  else if Tag.usualStart.toList.isPrefixOf s.toList then
    .full (Tag.ofName (String.ofList (s.toList.drop Tag.usualStart.length)))
  else .full .unknown

/-! ## What plain text looks like -/

/-- The words that stand for nothing. -/
def nullWords : List String :=
  ["", "~", "null", "Null", "NULL"]

/-- The words that stand for true. -/
def trueWords : List String :=
  ["yes", "Yes", "YES", "true", "True", "TRUE", "on", "On", "ON"]

/-- The words that stand for false. -/
def falseWords : List String :=
  ["no", "No", "NO", "false", "False", "FALSE", "off", "Off", "OFF"]

/-- Characters without a sign before them. -/
def dropSign : List Char → List Char
  | '+' :: rest => rest
  | '-' :: rest => rest
  | cs => cs

/-- A digit or an underscore. -/
def isDigitOrGap (c : Char) : Bool :=
  Text.isAsciiDigit c || c == '_'

/-- Whether characters are digits with underscores, starting with a digit. -/
def isDigitRun : List Char → Bool
  | [] => false
  | c :: rest => Text.isAsciiDigit c && rest.all isDigitOrGap

/-- Whether characters are a number below sixty. -/
def isSixtieth : List Char → Bool
  | [d] => Text.isAsciiDigit d
  | [d, e] => '0' ≤ d && d ≤ '5' && Text.isAsciiDigit e
  | _ => false

/-- Whether characters are numbers between colons, all but the first below sixty. -/
def isSexagesimal (cs : List Char) : Bool :=
  match cs.splitOn ':' with
  | first :: rest => isDigitRun first && !rest.isEmpty && rest.all isSixtieth
  | [] => false

/-- Whether text looks like an integer: binary after `0b`, hexadecimal after `0x`, octal after a
zero, decimal, or sexagesimal. -/
def looksInt (cs : List Char) : Bool :=
  match dropSign cs with
  | ['0'] => true
  | '0' :: 'b' :: rest => !rest.isEmpty && rest.all fun c => c == '0' || c == '1' || c == '_'
  | '0' :: 'x' :: rest => !rest.isEmpty && rest.all fun c => (Text.hexDigit? c).isSome || c == '_'
  | '0' :: rest => rest.all fun c => ('0' ≤ c && c ≤ '7') || c == '_'
  | body => isDigitRun body || isSexagesimal body

/-- Whether text is nothing, or the exponent of a number, which has a sign. -/
def looksExponent : List Char → Bool
  | [] => true
  | e :: s :: rest =>
    (e == 'e' || e == 'E') && (s == '+' || s == '-') && !rest.isEmpty &&
      rest.all Text.isAsciiDigit
  | _ => false

/-- Whether text looks like a fraction and perhaps an exponent after a point. -/
def looksFraction (cs : List Char) : Bool :=
  looksExponent (cs.dropWhile isDigitOrGap)

/-- Whether text looks like a floating point number. One without digits before the point has no
sign, unless it is infinite. -/
def looksFloat (cs : List Char) : Bool :=
  let body := dropSign cs
  let whole := body.takeWhile (· != '.')
  match body.dropWhile (· != '.') with
  | [] => false
  | _ :: rest =>
    (isDigitRun whole && looksFraction rest) ||
      (isSexagesimal whole && rest.all isDigitOrGap) ||
      (whole.isEmpty && ["inf", "Inf", "INF"].contains (String.ofList rest)) ||
      (cs.head? == some '.' && rest.head?.any Text.isAsciiDigit && looksFraction rest) ||
      (cs.head? == some '.' && ["nan", "NaN", "NAN"].contains (String.ofList rest))

end LoadPlan.Yaml
