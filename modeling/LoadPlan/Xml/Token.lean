import LoadPlan.Text.Digit
import LoadPlan.Xml.Chars
import LoadPlan.Xml.Problem

/-!
# Pieces of markup

Names, references, comments, instructions and tags, each read from the characters that follow its
first mark. A piece is refused at the first character that cannot belong to it; the reader carries
what is left of the text from there on. A piece that the text ends in is unfinished.
-/

namespace LoadPlan.Xml

/-- A problem, with what is left of the text from its place on. -/
structure Stop where
  problem : Problem
  rest : List Char

/-- Why a piece of markup is refused. -/
inductive Halt where
  | invalid (rest : List Char)
  | unfinished

/-- The problem of a piece of markup that begins at `start`. -/
def Halt.stop (start : List Char) : Halt → Stop
  | .invalid rest => ⟨.invalidToken, rest⟩
  | .unfinished => ⟨.unclosedToken, start⟩

/-- A piece of markup, or its problem. -/
def piece {α : Type} (start : List Char) (x : Except Halt α) : Except Stop α :=
  x.mapError (·.stop start)

/-- Refuses the first character of what is left. -/
def refuse {α : Type} : List Char → Except Halt α
  | [] => .error .unfinished
  | rest => .error (.invalid rest)

/-- Characters without the white space they start with. -/
def skipSpace (cs : List Char) : List Char :=
  cs.dropWhile isSpace

/-- A name without colons. -/
def takeName : List Char → Except Halt (List Char × List Char)
  | [] => .error .unfinished
  | c :: rest =>
    if isNameStart c then .ok (c :: rest.takeWhile isNameChar, rest.dropWhile isNameChar)
    else .error (.invalid (c :: rest))

/-- A name with at most one colon inside. -/
def takeQualified (cs : List Char) : Except Halt (List Char × List Char) :=
  match takeName cs with
  | .error halt => .error halt
  | .ok (name, ':' :: rest) =>
    match takeName rest with
    | .error halt => .error halt
    | .ok (local', rest) => .ok (name ++ ':' :: local', rest)
  | .ok found => .ok found

/-! ## References -/

/-- A piece of the text of an element or an attribute. -/
inductive Piece where
  | char (c : Char)
  /-- A reference to a character by its number, if there is such a character, and the text from
  the reference on. -/
  | number (c : Option Char) (place : List Char)
  /-- A reference to an entity by its name, and the text from the reference on. -/
  | entity (name : List Char) (place : List Char)

/-- The value of a digit in a base of at most sixteen. -/
def digit? (base : Nat) (c : Char) : Option Nat :=
  (Text.hexDigit? c).filter (· < base)

/-- The character with a number, if a document may hold it. -/
def charOf? (n : Nat) : Option Char :=
  if n < 0x110000 && !(0xd800 ≤ n && n < 0xe000) && isChar (Char.ofNat n) then some (Char.ofNat n)
  else none

/-- The number that digits up to a semicolon write, with what follows; `first` says whether a digit
must come next. -/
def takeNumber (base : Nat) (first : Bool) (n : Nat) : List Char → Except Halt (Nat × List Char)
  | [] => .error .unfinished
  | c :: rest =>
    match digit? base c with
    | some d => takeNumber base false (if n < 0x110000 then n * base + d else n) rest
    | none => if c = ';' && !first then .ok (n, rest) else .error (.invalid (c :: rest))

/-- A reference, from what follows its ampersand. -/
def takeReference (place : List Char) : List Char → Except Halt (Piece × List Char)
  | '#' :: 'x' :: rest =>
    match takeNumber 16 true 0 rest with
    | .ok (n, rest) => .ok (.number (charOf? n) place, rest)
    | .error halt => .error halt
  | '#' :: rest =>
    match takeNumber 10 true 0 rest with
    | .ok (n, rest) => .ok (.number (charOf? n) place, rest)
    | .error halt => .error halt
  | cs =>
    match takeName cs with
    | .ok (name, ';' :: rest) => .ok (.entity name place, rest)
    | .ok (_, rest) => refuse rest
    | .error halt => .error halt

/-- The character of an entity that every document has. -/
def predefined? (name : List Char) : Option Char :=
  if name = "lt".toList then some '<'
  else if name = "gt".toList then some '>'
  else if name = "amp".toList then some '&'
  else if name = "quot".toList then some '"'
  else if name = "apos".toList then some '\''
  else none

/-! ## Comments and instructions -/

/-- What follows a comment, from its second dash on. -/
def skipComment : List Char → Except Halt (List Char)
  | [] => .error .unfinished
  | '-' :: rest => body rest
  | rest => .error (.invalid rest)
where
  /-- What follows the rest of a comment. -/
  body : List Char → Except Halt (List Char)
    | '-' :: '-' :: '>' :: rest => .ok rest
    | '-' :: '-' :: rest => refuse rest
    | [] => .error .unfinished
    | c :: rest => if isChar c then body rest else .error (.invalid (c :: rest))

/-- What follows the end of an instruction or declaration. -/
def skipInstruction : List Char → Except Halt (List Char)
  | '?' :: '>' :: rest => .ok rest
  | [] => .error .unfinished
  | c :: rest => if isChar c then skipInstruction rest else .error (.invalid (c :: rest))

/-- An instruction, or the declaration at the start of a document. -/
inductive Instruction where
  | declaration
  | other
  deriving DecidableEq, Repr

/-- What a target makes of an instruction; other spellings of the reserved one are refused. -/
def instructionOf? (target : List Char) : Option Instruction :=
  if target = "xml".toList then some .declaration
  else if target.map Char.toLower = "xml".toList then none
  else some .other

/-- An instruction, from its target on. -/
def takeInstruction (cs : List Char) : Except Halt (Instruction × List Char) :=
  match takeName cs with
  | .error halt => .error halt
  | .ok (_, []) => .error .unfinished
  | .ok (target, c :: rest) =>
    if isSpace c || c = '?' then
      match instructionOf? target with
      | none => .error (.invalid (c :: rest))
      | some kind =>
        if c = '?' then
          match rest with
          | '>' :: rest => .ok (kind, rest)
          | rest => refuse rest
        else (skipInstruction rest).map (kind, ·)
    else .error (.invalid (c :: rest))

/-! ## Tags -/

/-- An attribute as it is written: its name, the text from its name on, and its value. -/
structure RawAttribute where
  name : List Char
  place : List Char
  value : List Piece

/-- A start tag as it is written. -/
structure RawTag where
  name : List Char
  attributes : List RawAttribute
  /-- Whether the tag is the whole element. -/
  isEmpty : Bool

/-- The value of an attribute up to its closing quote, with what follows. There are at most as many
steps as the first list, which is longer than the text, has places. -/
def takeValue (quote : Char) : List Char → List Char → Except Halt (List Piece × List Char)
  | [], _ => .error .unfinished
  | _, [] => .error .unfinished
  | _ :: fuel, c :: rest =>
    if c = quote then .ok ([], rest)
    else if c = '&' then
      match takeReference (c :: rest) rest with
      | .error halt => .error halt
      | .ok (p, rest) => (takeValue quote fuel rest).map fun (ps, rest) => (p :: ps, rest)
    else if c = '<' || !isChar c then .error (.invalid (c :: rest))
    else (takeValue quote fuel rest).map fun (ps, rest) => (.char c :: ps, rest)

/-- An attribute, from its name on. -/
def takeAttribute (cs : List Char) : Except Halt (RawAttribute × List Char) := do
  let (name, rest) ← takeQualified cs
  match skipSpace rest with
  | '=' :: rest =>
    match skipSpace rest with
    | '"' :: rest => (takeValue '"' cs rest).map fun (v, rest) => (⟨name, cs, v⟩, rest)
    | '\'' :: rest => (takeValue '\'' cs rest).map fun (v, rest) => (⟨name, cs, v⟩, rest)
    | rest => refuse rest
  | rest => refuse rest

/-- The rest of a start tag, after its name or an attribute: whether it ends an empty element, and
what follows. There are at most as many steps as the first list, which is longer than the text, has
places. -/
def takeAttributes (name : List Char) (done : List RawAttribute) :
    List Char → List Char → Except Halt (RawTag × List Char)
  | [], _ => .error .unfinished
  | _ :: fuel, cs =>
    match cs with
    | '>' :: rest => .ok (⟨name, done.reverse, false⟩, rest)
    | '/' :: '>' :: rest => .ok (⟨name, done.reverse, true⟩, rest)
    | '/' :: rest => refuse rest
    | [] => .error .unfinished
    | c :: rest =>
      if isSpace c then
        match skipSpace rest with
        | '>' :: rest => .ok (⟨name, done.reverse, false⟩, rest)
        | '/' :: '>' :: rest => .ok (⟨name, done.reverse, true⟩, rest)
        | '/' :: rest => refuse rest
        | rest =>
          match takeAttribute rest with
          | .error halt => .error halt
          | .ok (a, rest) => takeAttributes name (a :: done) fuel rest
      else .error (.invalid (c :: rest))

/-- A start tag, from its name on. -/
def takeTag (cs : List Char) : Except Halt (RawTag × List Char) := do
  let (name, rest) ← takeQualified cs
  takeAttributes name [] cs rest

/-- A character of the name in an end tag. -/
def isEndNameChar (c : Char) : Bool :=
  isNameChar c || c = ':'

/-- The name of an end tag, from the name on, and what follows the tag. -/
def takeEndTag : List Char → Except Halt (List Char × List Char)
  | [] => .error .unfinished
  | c :: rest =>
    if isNameStart c then
      match skipSpace (rest.dropWhile isEndNameChar) with
      | '>' :: after => .ok (c :: rest.takeWhile isEndNameChar, after)
      | after => refuse after
    else .error (.invalid (c :: rest))

end LoadPlan.Xml
