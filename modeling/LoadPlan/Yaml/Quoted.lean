import LoadPlan.Text.Digit
import LoadPlan.Yaml.Cursor

/-!
# Quoted scalars of YAML

In single quotes only a quote is written specially, as two. In double quotes a backslash starts an
escape. In both a line break with the blanks around it stands for a space, further breaks for line
feeds.
-/

namespace LoadPlan.Yaml

/-- The number that hexadecimal digits write. -/
def hexNumber? (cs : List Char) : Option Nat :=
  cs.foldlM (fun n c => (Text.hexDigit? c).map (16 * n + ·)) 0

/-- The character of a number; half of a surrogate pair is no character and is read as the
noncharacter U+FFFF. -/
def characterOf (n : Nat) : Except Problem Char :=
  if 0x7fffffff < n then .error .hugeCharacter
  else if 0x10ffff < n then .error .badCharacter
  else if 0xd800 ≤ n && n < 0xe000 then .ok '\uffff'
  else .ok (Char.ofNat n)

/-- The character that a letter after a backslash stands for. -/
def escapedChar? : Char → Option Char
  | '0' => some '\x00'
  | 'a' => some '\x07'
  | 'b' => some '\x08'
  | 't' => some '\t'
  | '\t' => some '\t'
  | 'n' => some '\n'
  | 'v' => some '\x0b'
  | 'f' => some '\x0c'
  | 'r' => some '\r'
  | 'e' => some '\x1b'
  | ' ' => some ' '
  | '"' => some '"'
  | '\\' => some '\\'
  | '/' => some '/'
  | 'N' => some '\u0085'
  | '_' => some '\u00a0'
  | 'L' => some '\u2028'
  | 'P' => some '\u2029'
  | _ => none

/-- The number of digits after a letter that starts the number of a character. -/
def escapeDigits? : Char → Option Nat
  | 'x' => some 2
  | 'u' => some 4
  | 'U' => some 8
  | _ => none

/-- Further breaks after a break inside quotes, with the blanks that lines start with left out. -/
def quotedBreaks : Nat → List Char → Cursor → Except Problem (List Char × Cursor)
  | 0, done, p => .ok (done.reverse, p)
  | fuel + 1, done, p =>
    if p.atDocumentMarker then .error .malformed
    else
      let p := p.skip isSpaceOrTab
      match p.takeBreak? with
      | some (c, p) => quotedBreaks fuel (c :: done) p
      | none => .ok (done.reverse, p)

/-- What a break and further breaks stand for: a lone line feed is a space. -/
def foldBreaks (first : Char) (further : List Char) : List Char :=
  if first != '\n' then first :: further
  else if further.isEmpty then [' ']
  else further

/-- Blanks inside quotes, which count unless a line ends after them. -/
def quotedBlanks (p : Cursor) : Except Problem (List Char × Cursor) :=
  let (blanks, p) := p.span isSpaceOrTab
  match p.peek? with
  | none => .error .malformed
  | some _ =>
    match p.takeBreak? with
    | none => .ok (blanks, p)
    | some (first, p) => do
      let (further, p) ← quotedBreaks (p.rest.length + 1) [] p
      return (foldBreaks first further, p)

/-- What an escape stands for, from the character after the backslash on. -/
def escape (p : Cursor) : Except Problem (List Char × Cursor) :=
  match p.rest with
  | [] => .error .malformed
  | c :: rest =>
    match escapedChar? c, escapeDigits? c with
    | some x, _ => .ok ([x], p.next)
    | none, some n =>
      match hexNumber? (rest.take n) with
      | some code =>
        if (rest.take n).length < n then .error .malformed
        else do
          let x ← characterOf code
          return ([x], p.drop (n + 1))
      | none => .error .malformed
    | none, none =>
      match p.takeBreak? with
      | some (_, p) => quotedBreaks (p.rest.length + 1) [] p
      | none => .error .malformed

/-- The text in double quotes after the opening one; `done` is in reverse. -/
def doubleQuoted : Nat → List Char → Cursor → Except Problem (List Char × Cursor)
  | 0, _, _ => .error .malformed
  | fuel + 1, done, p =>
    match p.rest with
    | [] => .error .malformed
    | c :: _ =>
      if c == '"' then .ok (done.reverse, p.next)
      else if c == '\\' then
        match escape p.next with
        | .ok (cs, p) => doubleQuoted fuel (cs.reverse ++ done) p
        | .error e => .error e
      else if isSpaceOrTab c || isBreak c then
        match quotedBlanks p with
        | .ok (cs, p) => doubleQuoted fuel (cs.reverse ++ done) p
        | .error e => .error e
      else doubleQuoted fuel (c :: done) p.next

/-- The text in single quotes after the opening one; `done` is in reverse. -/
def singleQuoted : Nat → List Char → Cursor → Except Problem (List Char × Cursor)
  | 0, _, _ => .error .malformed
  | fuel + 1, done, p =>
    match p.rest with
    | [] => .error .malformed
    | c :: _ =>
      if c == '\'' then
        if p.second? == some '\'' then singleQuoted fuel ('\'' :: done) (p.drop 2)
        else .ok (done.reverse, p.next)
      else if isSpaceOrTab c || isBreak c then
        match quotedBlanks p with
        | .ok (cs, p) => singleQuoted fuel (cs.reverse ++ done) p
        | .error e => .error e
      else singleQuoted fuel (c :: done) p.next

/-- The text in quotes at a place. -/
def quoted (p : Cursor) : Except Problem (List Char × Cursor) :=
  if p.peek? == some '"' then doubleQuoted (p.rest.length + 1) [] p.next
  else singleQuoted (p.rest.length + 1) [] p.next

end LoadPlan.Yaml
