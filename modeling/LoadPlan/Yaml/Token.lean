import LoadPlan.Text.Digit
import LoadPlan.Text.Utf8
import LoadPlan.Yaml.Cursor

/-!
# Tokens of YAML

The words and marks that a document is made of. The starts and ends of block collections, which
indentation shows, are tokens of their own, and so is the key whose colon comes only after it.
-/

namespace LoadPlan.Yaml

/-- A token. -/
inductive Token where
  /-- The major version of the language that a document asks for. -/
  | version (major : Nat)
  /-- A short form of the tags that begin with a text. -/
  | tagHandle (handle start : String)
  /-- Any other directive. -/
  | directive
  | documentStart
  | documentEnd
  | blockSequenceStart
  | blockMappingStart
  | blockEnd
  | flowSequenceStart
  | flowSequenceEnd
  | flowMappingStart
  | flowMappingEnd
  | blockEntry
  | flowEntry
  | key
  | value
  | reference (name : String)
  | anchor (name : String)
  /-- A tag in short form, or in full without a handle. -/
  | tag (handle : Option String) (suffix : String)
  | scalar (text : String) (plain : Bool)
  deriving DecidableEq, Repr

/-! ## Names -/

/-- Letters, digits, hyphens and underscores of ASCII. -/
def isNameChar (c : Char) : Bool :=
  c.isAlphanum || c == '-' || c == '_'

/-- The name of an anchor or alias after its indicator. -/
def anchorName (p : Cursor) : Except Problem (String × Cursor) :=
  let (name, p) := p.span isNameChar
  if name.isEmpty then .error .malformed
  else if separates p.peek? || p.peek?.any "?:,]\x7d%@\x60".toList.contains then
    .ok (String.ofList name, p)
  else .error .malformed

/-- A handle of tags: an exclamation mark, a second one, or a name between two. -/
def tagHandle (p : Cursor) : Except Problem (String × Cursor) :=
  if p.peek? != some '!' then .error .malformed
  else
    let (name, q) := p.next.span isNameChar
    if q.peek? == some '!' then .ok ("!" ++ String.ofList name ++ "!", q.next)
    else if name.isEmpty && q.peek? == some ' ' then .ok ("!", q)
    else .error .malformed

/-- The characters that stand for themselves in a tag. -/
def isUriChar (c : Char) : Bool :=
  c.isAlphanum || "-;/?:@&=+$,_.!~*'()[]".toList.contains c

/-- The bytes that escapes at a place stand for; the later ones of a run follow the earlier. -/
def uriEscapes : Nat → List UInt8 → Cursor → Except Problem (List UInt8 × Cursor)
  | 0, done, p => .ok (done.reverse, p)
  | fuel + 1, done, p =>
    match p.rest with
    | '%' :: rest =>
      match rest with
      | a :: b :: _ =>
        match Text.hexDigit? a, Text.hexDigit? b with
        | some m, some n => uriEscapes fuel (UInt8.ofNat (16 * m + n) :: done) (p.drop 3)
        | _, _ => .error .malformed
      | _ => .error .malformed
    | _ => .ok (done.reverse, p)

/-- The text of a tag at a place, after what is in `done`. -/
def uriChars : Nat → List Char → Cursor → Except Problem (List Char × Cursor)
  | 0, done, p => .ok (done, p)
  | fuel + 1, done, p =>
    match p.rest with
    | [] => .ok (done, p)
    | c :: _ =>
      if isUriChar c then
        let (run, p) := p.span isUriChar
        uriChars fuel (done ++ run) p
      else if c == '%' then
        match uriEscapes (p.rest.length + 1) [] p with
        | .error e => .error e
        | .ok (bytes, p) =>
          match Text.Utf8.decode bytes with
          | .ok cs => uriChars fuel (done ++ cs) p
          | .error _ => .error .malformed
      else .ok (done, p)

/-- The text of a tag at a place, which must not be empty. -/
def uri (p : Cursor) : Except Problem (String × Cursor) := do
  let (cs, q) ← uriChars (p.rest.length + 1) [] p
  if q.index == p.index then throw .malformed
  return (String.ofList cs, q)

/-- Whether an exclamation mark comes before the next space or break, after the first character. -/
def hasSecondMark (p : Cursor) : Bool :=
  (p.next.rest.takeWhile fun c => !(c == ' ' || isBreak c)).contains '!'

/-- The tag at a place. -/
def tag (p : Cursor) : Except Problem (Token × Cursor) := do
  let (token, q) ←
    if p.second? == some '<' then do
      let (name, q) ← uri (p.drop 2)
      if q.peek? != some '>' then throw .malformed
      pure (Token.tag none name, q.next)
    else if separates p.second? then pure (Token.tag none "!", p.next)
    else do
      let (handle, q) ← if hasSecondMark p then tagHandle p else pure ("!", p.next)
      let (suffix, q) ← uri q
      pure (Token.tag (some handle) suffix, q)
  if spaceOrLineEnd q.peek? then return (token, q) else throw .malformed

/-! ## Directives -/

/-- A run of digits. -/
def versionNumber (p : Cursor) : Except Problem (Nat × Cursor) :=
  let (digits, q) := p.span Char.isDigit
  if digits.isEmpty then .error .malformed
  else .ok (digits.foldl (fun n c => 10 * n + (c.toNat - 48)) 0, q)

/-- The version after the name of its directive. -/
def versionDirective (p : Cursor) : Except Problem (Token × Cursor) := do
  let (major, p) ← versionNumber p.skipSpaces
  if p.peek? != some '.' then throw .malformed
  let (_, p) ← versionNumber p.next
  if spaceOrLineEnd p.peek? then return (.version major, p) else throw .malformed

/-- The handle and the text it is short for, after the name of their directive. -/
def tagDirective (p : Cursor) : Except Problem (Token × Cursor) := do
  let (handle, p) ← tagHandle p.skipSpaces
  if p.peek? != some ' ' then throw .malformed
  let (start, p) ← uri p.skipSpaces
  if spaceOrLineEnd p.peek? then return (.tagHandle handle start, p) else throw .malformed

/-- A directive from its indicator on. -/
def directive (p : Cursor) : Except Problem (Token × Cursor) := do
  let (name, p) := p.next.span isNameChar
  if name.isEmpty || !spaceOrLineEnd p.peek? then throw .malformed
  let (token, p) ←
    if name == "YAML".toList then versionDirective p
    else if name == "TAG".toList then tagDirective p
    else pure (Token.directive, p.skipLine)
  let p ← p.restOfLine
  return (token, p)

end LoadPlan.Yaml
