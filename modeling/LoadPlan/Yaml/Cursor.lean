/-!
# Places in a YAML document

What is left of a document, with the line and column where it begins. Every step of reading moves a
cursor forward, so the place of a character is known whenever indentation is asked for.
-/

namespace LoadPlan.Yaml

/-- Why a document is refused. -/
inductive Problem where
  /-- The document breaks the grammar, or uses an anchor or a tag that is not known. -/
  | malformed
  /-- A number or date is written in its form but has no value. -/
  | badNumber
  /-- An escape is the number of no character. -/
  | badCharacter
  /-- An escape is a number too large to be looked at. -/
  | hugeCharacter
  /-- A truth value is asked for by a tag and not written. -/
  | noTruthValue
  deriving DecidableEq, Repr

/-- A line break: a line feed, a next line character, or a separator of lines or paragraphs. -/
def isBreak (c : Char) : Bool :=
  c == '\n' || c == '\u0085' || c == '\u2028' || c == '\u2029'

/-- A space or a tab. -/
def isSpaceOrTab (c : Char) : Bool :=
  c == ' ' || c == '\t'

/-- The mark that can stand before a document and takes no column. -/
def byteOrderMark : Char :=
  '\ufeff'

/-- A character that a document may hold. -/
def isAllowed (c : Char) : Bool :=
  let n := c.toNat
  n == 9 || n == 10 || n == 13 || (0x20 ≤ n && n ≤ 0x7e) || n == 0x85 ||
    (0xa0 ≤ n && n ≤ 0xd7ff) || (0xe000 ≤ n && n ≤ 0xfffd) || 0x10000 ≤ n

/-- What is left of a document and where it begins. -/
structure Cursor where
  rest : List Char
  /-- The number of characters before. -/
  index : Nat := 0
  line : Nat := 0
  column : Nat := 0

namespace Cursor

/-- The next character, if there is one. -/
def peek? (p : Cursor) : Option Char :=
  p.rest.head?

/-- The character after the next one, if there is one. -/
def second? (p : Cursor) : Option Char :=
  (p.rest.drop 1).head?

/-- The place after the next character. -/
def next (p : Cursor) : Cursor :=
  match p.rest with
  | [] => p
  | c :: rest =>
    if isBreak c then ⟨rest, p.index + 1, p.line + 1, 0⟩
    else ⟨rest, p.index + 1, p.line, if c == byteOrderMark then p.column else p.column + 1⟩

/-- The place some characters further. -/
def drop (p : Cursor) : Nat → Cursor
  | 0 => p
  | n + 1 => p.next.drop n

/-- The characters up to the first that does not satisfy a condition, and the place of that one. -/
def span (p : Cursor) (f : Char → Bool) : List Char × Cursor :=
  let run := p.rest.takeWhile f
  (run, p.drop run.length)

/-- The place after characters that satisfy a condition. -/
def skip (p : Cursor) (f : Char → Bool) : Cursor :=
  (p.span f).2

/-- The place after spaces. -/
def skipSpaces (p : Cursor) : Cursor :=
  p.skip (· == ' ')

/-- The place of the next break. -/
def skipLine (p : Cursor) : Cursor :=
  p.skip (!isBreak ·)

/-- The place after spaces, but not beyond a column. -/
def skipIndent (p : Cursor) (column : Nat) : Cursor :=
  p.drop ((p.rest.takeWhile (· == ' ')).length.min (column - p.column))

/-- The break at a place, as a character of a text, and the place after it. Breaks other than
separators are read as line feeds. -/
def takeBreak? (p : Cursor) : Option (Char × Cursor) :=
  match p.rest with
  | [] => none
  | c :: _ =>
    if c == '\n' || c == '\u0085' then some ('\n', p.next)
    else if isBreak c then some (c, p.next)
    else none

/-- Whether a line ends at a place. -/
def atLineEnd (p : Cursor) : Bool :=
  p.peek?.all isBreak

end Cursor

/-- Whether a character, or the end of the document, separates words. -/
def separates (c : Option Char) : Bool :=
  c.all fun c => isSpaceOrTab c || isBreak c

/-- Whether a character, or the end of the document, is a space or ends a line. -/
def spaceOrLineEnd (c : Option Char) : Bool :=
  c.all fun c => c == ' ' || isBreak c

/-- Whether a word that marks the start or end of a document stands at a place. -/
def Cursor.atMarker (p : Cursor) (marker : String) : Bool :=
  marker.toList.isPrefixOf p.rest && separates (p.rest.drop 3).head?

/-- Whether a document starts or ends at a place. -/
def Cursor.atDocumentMarker (p : Cursor) : Bool :=
  p.atMarker "---" || p.atMarker "..."

/-- The place after what may follow on a line: spaces and a comment. -/
def Cursor.restOfLine (p : Cursor) : Except Problem Cursor :=
  let p := p.skipSpaces
  let p := if p.peek? == some '#' then p.skipLine else p
  if p.atLineEnd then .ok ((p.takeBreak?).elim p (·.2)) else .error .malformed

end LoadPlan.Yaml
