import LoadPlan.Yaml.Block
import LoadPlan.Yaml.Plain
import LoadPlan.Yaml.Token

/-!
# From characters to tokens

Walks a document and makes its tokens. Indentation opens and closes block collections. A key on one
line is recognised by the colon after it: what could be a key is remembered with the number of
tokens before it, and the token of the key is put there when the colon comes.
-/

namespace LoadPlan.Yaml

/-- The start of something that may turn out to be a key. -/
structure PendingKey where
  /-- The number of tokens before it. -/
  position : Nat
  /-- Whether nothing else can stand there. -/
  required : Bool
  index : Nat
  line : Nat
  column : Nat

/-- How far a document has been read. -/
structure Layout where
  place : Cursor
  /-- The number of open flow collections. -/
  flow : Nat := 0
  /-- The column of the innermost block collection. -/
  indent : Int := -1
  /-- The columns of the block collections around it. -/
  outer : List Int := []
  /-- Whether a key can start here. -/
  keyAllowed : Bool := true
  /-- What may turn out to be a key, for each number of open flow collections. -/
  keys : List (Nat × PendingKey) := []
  /-- The tokens so far, in reverse. -/
  tokens : List Token := []

namespace Layout

/-- Whether the place is inside a flow collection. -/
def inFlow (s : Layout) : Bool :=
  s.flow != 0

/-- The longest distance from the start of a key to its colon. -/
def keyReach : Nat := 1024

/-- Whether something cannot be a key any more: its line has ended, or it is too far away. -/
def isStale (s : Layout) (key : PendingKey) : Bool :=
  key.line != s.place.line || keyReach < s.place.index - key.index

/-- Forgets what cannot be a key any more. -/
def forgetStale (s : Layout) : Except Problem Layout :=
  if s.keys.any fun k => s.isStale k.2 && k.2.required then .error .malformed
  else .ok { s with keys := s.keys.filter fun k => !s.isStale k.2 }

/-- Forgets what may be a key in the innermost collection. -/
def forgetKey (s : Layout) : Except Problem Layout :=
  if s.keys.any fun k => k.1 == s.flow && k.2.required then .error .malformed
  else .ok { s with keys := s.keys.filter (·.1 != s.flow) }

/-- Remembers that a key may start at the place. -/
def rememberKey (s : Layout) : Except Problem Layout := do
  if !s.keyAllowed then return s
  let s ← s.forgetKey
  let p := s.place
  let key : PendingKey :=
    ⟨s.tokens.length, !s.inFlow && s.indent == p.column, p.index, p.line, p.column⟩
  return { s with keys := (s.flow, key) :: s.keys }

/-- Adds a token. -/
def push (s : Layout) (t : Token) : Layout :=
  { s with tokens := t :: s.tokens }

/-- Puts a token after the first `position` ones. -/
def insertAt (s : Layout) (position : Nat) (t : Token) : Layout :=
  let behind := s.tokens.length - position
  { s with tokens := s.tokens.take behind ++ t :: s.tokens.drop behind }

/-- Closes block collections, from the innermost of the given ones, that are indented further than
a column. -/
def closeFrom (s : Layout) (column : Int) : List Int → Layout
  | [] => s
  | around :: rest =>
    if column < s.indent then
      closeFrom { s with indent := around, outer := rest, tokens := .blockEnd :: s.tokens } column rest
    else s

/-- Closes block collections that are indented further than a column. -/
def close (s : Layout) (column : Int) : Layout :=
  if s.inFlow then s else s.closeFrom column s.outer

/-- Whether a block collection at a column is a new one. -/
def opens (s : Layout) (column : Nat) : Bool :=
  s.indent < column

/-- Opens a block collection at a column, unless it is the innermost one. -/
def openAt (s : Layout) (column : Nat) : Layout :=
  if s.opens column then { s with indent := column, outer := s.indent :: s.outer } else s

/-! ## Tokens -/

/-- Adds a mark of some characters. -/
def mark (s : Layout) (t : Token) (length : Nat := 1) : Layout :=
  { s.push t with place := s.place.drop length }

/-- Adds a token that ends at a place and is no key nor before one. -/
def scanned (s : Layout) (t : Token × Cursor) : Layout :=
  { s.push t.1 with place := t.2, keyAllowed := false }

/-- A directive, or a mark that starts or ends a document. -/
def atTop (s : Layout) : Except Problem Layout := do
  let s ← (s.close (-1)).forgetKey
  return { s with keyAllowed := false }

/-- The start of a flow collection. -/
def openFlow (s : Layout) (t : Token) : Except Problem Layout := do
  let s ← s.rememberKey
  return { s.mark t with flow := s.flow + 1, keyAllowed := true }

/-- The end of a flow collection. -/
def closeFlow (s : Layout) (t : Token) : Except Problem Layout := do
  let s ← s.forgetKey
  if !s.inFlow then throw .malformed
  return { s.mark t with flow := s.flow - 1, keyAllowed := false }

/-- Opens a block collection at the place for an entry, where one can start. -/
def openBlock (s : Layout) (t : Token) : Except Problem Layout :=
  if s.inFlow then .ok s
  else if !s.keyAllowed then .error .malformed
  else if s.opens s.place.column then .ok ((s.openAt s.place.column).push t)
  else .ok s

/-- A comma of a flow collection. -/
def flowEntry (s : Layout) : Except Problem Layout := do
  let s ← s.forgetKey
  return { s.mark .flowEntry with keyAllowed := true }

/-- A hyphen before an entry. -/
def blockEntry (s : Layout) : Except Problem Layout := do
  let s ← (← s.openBlock .blockSequenceStart).forgetKey
  return { s.mark .blockEntry with keyAllowed := true }

/-- A question mark before a key. -/
def explicitKey (s : Layout) : Except Problem Layout := do
  let s ← (← s.openBlock .blockMappingStart).forgetKey
  return { s.mark .key with keyAllowed := !s.inFlow }

/-- A colon before a value: what may be a key before it is one. -/
def value (s : Layout) : Except Problem Layout := do
  match s.keys.find? (·.1 == s.flow) with
  | some (_, key) =>
    let s := { s with keys := s.keys.filter (·.1 != s.flow) }
    let s := s.insertAt key.position .key
    let s :=
      if !s.inFlow && s.opens key.column then
        (s.openAt key.column).insertAt key.position .blockMappingStart
      else s
    return { s.mark .value with keyAllowed := false }
  | none =>
    let s ← (← s.openBlock .blockMappingStart).forgetKey
    return { s.mark .value with keyAllowed := !s.inFlow }

/-- Anything that can be a key. -/
def node (s : Layout) (read : Cursor → Except Problem (Token × Cursor)) :
    Except Problem Layout := do
  let s ← s.rememberKey
  return s.scanned (← read s.place)

/-- A block scalar. -/
def block (s : Layout) : Except Problem Layout := do
  let s ← s.forgetKey
  let (text, p) ← blockScalar s.indent s.place
  return { s.scanned (.scalar (String.ofList text) false, p) with keyAllowed := true }

/-- A plain scalar; a key can come after it if a line has ended. -/
def plain (s : Layout) : Except Problem Layout := do
  let s ← s.rememberKey
  let scalar := plainScalar s.inFlow s.indent s.place
  return { s.scanned (.scalar (String.ofList scalar.text) true, scalar.place) with
    keyAllowed := scalar.afterBreak }

/-- The place of the next token, after spaces, comments and breaks, and whether a line ended. -/
def skipBlank : Nat → Bool → Cursor → Bool × Cursor
  | 0, broke, p => (broke, p)
  | fuel + 1, broke, p =>
    let p := p.skipSpaces
    let p := if p.peek? == some '#' then p.skipLine else p
    match p.takeBreak? with
    | some (_, p) => skipBlank fuel true p
    | none => (broke, p)

/-- Moves to the next token. -/
def toToken (s : Layout) : Except Problem Layout := do
  let start :=
    if s.place.index == 0 && s.place.peek? == some byteOrderMark then s.place.next else s.place
  let (broke, p) := skipBlank (start.rest.length + 1) false start
  let s := { s with place := p, keyAllowed := s.keyAllowed || (broke && !s.inFlow) }
  let s ← s.forgetStale
  return s.close s.place.column

/-- Adds the token that starts with a character. -/
def step (s : Layout) (c : Char) : Except Problem Layout := do
  let p := s.place
  let alone := separates p.second?
  if p.column == 0 && c == '%' then
    let s ← s.atTop
    return s.scanned (← directive p)
  if p.column == 0 && p.atMarker "---" then return (← s.atTop).mark .documentStart 3
  if p.column == 0 && p.atMarker "..." then return (← s.atTop).mark .documentEnd 3
  if c == '[' then s.openFlow .flowSequenceStart
  else if c == '\x7b' then s.openFlow .flowMappingStart
  else if c == ']' then s.closeFlow .flowSequenceEnd
  else if c == '\x7d' then s.closeFlow .flowMappingEnd
  else if c == ',' then s.flowEntry
  else if c == '-' && alone then s.blockEntry
  else if c == '?' && (s.inFlow || alone) then s.explicitKey
  else if c == ':' && (s.inFlow || alone) then s.value
  else if c == '*' then s.node fun p => do
    let (name, q) ← anchorName p.next
    return (.reference name, q)
  else if c == '&' then s.node fun p => do
    let (name, q) ← anchorName p.next
    return (.anchor name, q)
  else if c == '!' then s.node tag
  else if (c == '|' || c == '>') && !s.inFlow then s.block
  else if c == '\'' || c == '"' then s.node fun p => do
    let (text, q) ← quoted p
    return (.scalar (String.ofList text) false, q)
  else if startsPlain s.inFlow p then s.plain
  else throw .malformed

/-- Reads to the end of the document. -/
def run : Nat → Layout → Except Problem Layout
  | 0, s => .ok s
  | fuel + 1, s => do
    let s ← s.toToken
    match s.place.peek? with
    | none => (s.close (-1)).forgetKey
    | some c => run fuel (← s.step c)

end Layout

/-- The tokens of a document. -/
def tokens (cs : List Char) : Except Problem (List Token) := do
  if !cs.all isAllowed then throw .malformed
  let s ← Layout.run (cs.length + 1) { place := { rest := cs } }
  return s.tokens.reverse

end LoadPlan.Yaml
