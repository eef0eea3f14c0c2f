import LoadPlan.Value.Basic
import LoadPlan.Number.Reader
import LoadPlan.Text.Lines

/-!
# Reading JSON

A reader for JSON documents, with the words NaN, Infinity and -Infinity as further numbers. A key
that comes twice keeps its first place and its last value. A document that is refused is refused at
a place: the reader carries what is left of the text, and the place is where that begins.
-/

namespace LoadPlan.Json

/-- What is wrong with a document. -/
inductive Problem where
  | byteOrderMark
  | value
  | propertyName
  | colon
  | comma
  | unterminated
  | control
  | escape
  | unicodeEscape
  | extra
  deriving DecidableEq, Repr

/-- The wording of a problem. -/
def Problem.message : Problem → String
  | .byteOrderMark => "Unexpected UTF-8 BOM (decode using utf-8-sig)"
  | .value => "Expecting value"
  | .propertyName => "Expecting property name enclosed in double quotes"
  | .colon => "Expecting ':' delimiter"
  | .comma => "Expecting ',' delimiter"
  | .unterminated => "Unterminated string starting at"
  | .control => "Invalid control character at"
  | .escape => "Invalid \\escape"
  | .unicodeEscape => "Invalid \\uXXXX escape"
  | .extra => "Extra data"

/-- A problem, with what is left of the text from its place on. -/
inductive Stop where
  | at (problem : Problem) (rest : List Char)
  /-- An integer with more digits than are read. -/
  | tooManyDigits

/-- White space of JSON. -/
def isSpace (c : Char) : Bool :=
  c = ' ' || c = '\t' || c = '\n' || c = '\r'

/-- Characters without the white space they start with. -/
def skipSpace (cs : List Char) : List Char :=
  cs.dropWhile isSpace

/-- The number that four hexadecimal digits write, if `cs` starts with four and goes on. -/
def hexFour? : List Char → Option (Nat × List Char)
  | a :: b :: c :: d :: rest => do
    let a ← Text.hexDigit? a
    let b ← Text.hexDigit? b
    let c ← Text.hexDigit? c
    let d ← Text.hexDigit? d
    if rest.isEmpty then none else some (((a * 16 + b) * 16 + c) * 16 + d, rest)
  | _ => none

/-- The character that a letter after a backslash stands for. -/
def escaped? : Char → Option Char
  | '"' => some '"'
  | '\\' => some '\\'
  | '/' => some '/'
  | 'b' => some '\x08'
  | 'f' => some '\x0c'
  | 'n' => some '\n'
  | 'r' => some '\r'
  | 't' => some '\t'
  | _ => none

/-- The character of a code unit; a lone surrogate is no character and is read as the noncharacter
U+FFFF. -/
def unitChar (n : Nat) : Char :=
  if 0xd800 ≤ n && n < 0xe000 then Char.ofNat 0xffff else Char.ofNat n

/-- The character after `\u`, from its digits on, and how many further characters belong to it. A
leading surrogate takes the trailing one in the next escape with it. -/
def unicodeEscape (cs : List Char) : Except (List Char) (Char × List Char) :=
  match hexFour? cs with
  | none => .error cs
  | some (lead, rest) =>
    if 0xd800 ≤ lead && lead < 0xdc00 then
      match rest with
      | '\\' :: 'u' :: more =>
        if more.length < 5 then .ok (unitChar lead, rest)
        else
          match hexFour? more with
          | none => .error more
          | some (trail, after) =>
            if 0xdc00 ≤ trail && trail < 0xe000 then
              .ok (Char.ofNat (0x10000 + (lead - 0xd800) * 0x400 + (trail - 0xdc00)), after)
            else .ok (unitChar lead, rest)
      | _ => .ok (unitChar lead, rest)
    else .ok (unitChar lead, rest)

/-- The rest of a string after its opening quote, as characters in reverse. `opening` is the text
from that quote on. -/
def stringRest (opening : List Char) : Nat → List Char → List Char →
    Except Stop (List Char × List Char)
  | 0, _, _ => .error (.at .unterminated opening)
  | _ + 1, _, [] => .error (.at .unterminated opening)
  | fuel + 1, done, c :: rest =>
    if c = '"' then .ok (done, rest)
    else if c = '\\' then
      match rest with
      | [] => .error (.at .unterminated opening)
      | 'u' :: digits =>
        match unicodeEscape digits with
        | .ok (u, after) => stringRest opening fuel (u :: done) after
        | .error place => .error (.at .unicodeEscape ('u' :: place))
      | e :: after =>
        match escaped? e with
        | some x => stringRest opening fuel (x :: done) after
        | none => .error (.at .escape (c :: rest))
    else if c.toNat < 32 then .error (.at .control (c :: rest))
    else stringRest opening fuel (c :: done) rest

/-- A string, from its opening quote on. -/
def string (opening rest : List Char) : Except Stop (String × List Char) :=
  match stringRest opening (rest.length + 1) [] rest with
  | .ok (done, after) => .ok (String.ofList done.reverse, after)
  | .error stop => .error stop

/-- The fraction that follows an integer part, if a digit follows the point. -/
def takeFraction : List Char → List Char × List Char
  | '.' :: d :: rest =>
    if Text.isAsciiDigit d then
      (d :: rest.takeWhile Text.isAsciiDigit, rest.dropWhile Text.isAsciiDigit)
    else ([], '.' :: d :: rest)
  | cs => ([], cs)

/-- The exponent that follows a number, if a digit follows its letter and sign. -/
def takeExponent (cs : List Char) : Option Int × List Char :=
  match cs with
  | e :: rest =>
    if e = 'e' || e = 'E' then
      let (negative, digits) := Number.takeSign rest
      let run := digits.takeWhile Text.isAsciiDigit
      if run.isEmpty then (none, cs)
      else
        let n : Int := Number.ofDigits run
        (some (if negative then -n else n), digits.dropWhile Text.isAsciiDigit)
    else (none, cs)
  | [] => (none, cs)

/-- The integer part of a number: zero, or digits that do not start with one. -/
def takeWhole : List Char → Option (List Char × List Char)
  | '0' :: rest => some (['0'], rest)
  | c :: rest =>
    if Text.isAsciiDigit c then
      some (c :: rest.takeWhile Text.isAsciiDigit, rest.dropWhile Text.isAsciiDigit)
    else none
  | [] => none

/-- A number. -/
def number (cs : List Char) : Except Stop (Value × List Char) :=
  let (negative, unsigned) :=
    match cs with
    | '-' :: rest => (true, rest)
    | _ => (false, cs)
  match takeWhole unsigned with
  | none => .error (.at .value cs)
  | some (whole, rest) =>
    let (fraction, rest) := takeFraction rest
    let (exponent, rest) := takeExponent rest
    if fraction.isEmpty && exponent.isNone then
      if Number.maxDigits < whole.length then .error .tooManyDigits
      else
        let n : Int := Number.ofDigits whole
        .ok (.int (if negative then -n else n), rest)
    else
      .ok (.float (.ofDecimal negative (Number.ofDigits (whole ++ fraction))
        (exponent.getD 0 - fraction.length)), rest)

/-- The words that stand for values, with their values. -/
def words : List (List Char × Value) :=
  [("null".toList, .null), ("true".toList, .bool true), ("false".toList, .bool false),
   ("NaN".toList, .float .nan), ("Infinity".toList, .float (.infinite false)),
   ("-Infinity".toList, .float (.infinite true))]

/-- The value of the word that `cs` starts with. -/
def word? (cs : List Char) : Option (Value × List Char) :=
  (words.find? fun w => w.1.isPrefixOf cs).map fun w => (w.2, cs.drop w.1.length)

mutual

/-- A value. -/
def value : Nat → List Char → Except Stop (Value × List Char)
  | 0, cs => .error (.at .value cs)
  | _ + 1, [] => .error (.at .value [])
  | fuel + 1, c :: rest =>
    if c = '"' then
      match string (c :: rest) rest with
      | .ok (s, after) => .ok (.text s, after)
      | .error stop => .error stop
    else if c = '\x7b' then
      match skipSpace rest with
      | '\x7d' :: after => .ok (.mapping [], after)
      | inside => members fuel [] inside
    else if c = '[' then
      match skipSpace rest with
      | ']' :: after => .ok (.list [], after)
      | inside => elements fuel [] inside
    else
      match word? (c :: rest) with
      | some found => .ok found
      | none => number (c :: rest)

/-- The members of an object from a key on, after those in `done`. -/
def members : Nat → Entries → List Char → Except Stop (Value × List Char)
  | 0, _, cs => .error (.at .value cs)
  | fuel + 1, done, cs =>
    match cs with
    | '"' :: rest =>
      match string cs rest with
      | .error stop => .error stop
      | .ok (key, after) =>
        match skipSpace after with
        | ':' :: after =>
          match value fuel (skipSpace after) with
          | .error stop => .error stop
          | .ok (v, after) =>
            let done := Entries.insert done key v
            match skipSpace after with
            | '\x7d' :: after => .ok (.mapping done, after)
            | ',' :: after => members fuel done (skipSpace after)
            | place => .error (.at .comma place)
        | place => .error (.at .colon place)
    | place => .error (.at .propertyName place)

/-- The items of an array from an item on, after those in `done`, which are in reverse. -/
def elements : Nat → List Value → List Char → Except Stop (Value × List Char)
  | 0, _, cs => .error (.at .value cs)
  | fuel + 1, done, cs =>
    match value fuel cs with
    | .error stop => .error stop
    | .ok (v, after) =>
      match skipSpace after with
      | ']' :: after => .ok (.list (v :: done).reverse, after)
      | ',' :: after => elements fuel (v :: done) (skipSpace after)
      | place => .error (.at .comma place)

end

/-- A whole document. -/
def document (cs : List Char) : Except Stop Value :=
  if cs.head? = some (Char.ofNat 0xfeff) then .error (.at .byteOrderMark cs)
  else
    match value (2 * cs.length + 2) (skipSpace cs) with
    | .error stop => .error stop
    | .ok (v, after) =>
      match skipSpace after with
      | [] => .ok v
      | place => .error (.at .extra place)

/-- Why a document is refused. -/
inductive Error where
  /-- A problem at a place, given by line and column from 1 and by the characters before it. -/
  | syntaxError (problem : Problem) (line column position : Nat)
  | tooManyDigits
  deriving DecidableEq, Repr

/-- The place of a problem in the whole text. -/
def Stop.locate (cs : List Char) : Stop → Error
  | .tooManyDigits => .tooManyDigits
  | .at problem rest =>
    let before := cs.take (cs.length - rest.length)
    .syntaxError problem (Text.lineAfter before) ((Text.lastLine before).length + 1) before.length

/-- The value of a JSON document. -/
def read (cs : List Char) : Except Error Value :=
  (document cs).mapError (·.locate cs)

end LoadPlan.Json
