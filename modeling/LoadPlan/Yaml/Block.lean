import LoadPlan.Yaml.Quoted

/-!
# Block scalars of YAML

The lines below an indicator that are indented far enough. A literal one keeps its breaks; in a
folded one a break between two lines that start with no blank stands for a space. The indicator
can also say what becomes of the breaks at the end and give the indentation.
-/

namespace LoadPlan.Yaml

/-- What becomes of the breaks at the end of a block scalar. -/
inductive Chomping where
  /-- One break is kept. -/
  | clip
  /-- No break is kept. -/
  | strip
  /-- Every break is kept. -/
  | keep
  deriving DecidableEq, Repr

/-- What the indicator of a block scalar says. -/
structure BlockHeader where
  chomping : Chomping := .clip
  /-- The indentation of the lines beyond that of what they stand in. -/
  increment : Option Nat := none

/-- The way of chomping that a sign asks for. -/
def chompingOf? : Option Char → Option Chomping
  | some '+' => some .keep
  | some '-' => some .strip
  | _ => none

/-- The indentation that a digit gives; zero is none. -/
def incrementOf? (c : Option Char) : Except Problem (Option Nat) :=
  match c with
  | some c =>
    if c == '0' then .error .malformed
    else if c.isDigit then .ok (some (c.toNat - 48))
    else .ok none
  | none => .ok none

/-- The header of a block scalar, after its indicator: a sign and a digit in either order. -/
def blockHeader (p : Cursor) : Except Problem (BlockHeader × Cursor) := do
  let (header, p) ←
    match chompingOf? p.peek? with
    | some chomping => do
      let increment ← incrementOf? p.second?
      pure (⟨chomping, increment⟩, p.drop (if increment.isSome then 2 else 1))
    | none => do
      let increment ← incrementOf? p.peek?
      match increment, chompingOf? p.second? with
      | none, _ => pure (({} : BlockHeader), p)
      | some n, none => pure (⟨.clip, some n⟩, p.next)
      | some n, some chomping => pure (⟨chomping, some n⟩, p.drop 2)
  if spaceOrLineEnd p.peek? then return (header, p) else throw .malformed

/-- The breaks of empty lines, with at most some columns of spaces before each, which are also
skipped after the last; in reverse before `done`. -/
def emptyLines (indent : Nat) : Nat → List Char → Cursor → List Char × Cursor
  | 0, done, p => (done.reverse, p)
  | fuel + 1, done, p =>
    let p := p.skipIndent indent
    match p.takeBreak? with
    | some (c, p) => emptyLines indent fuel (c :: done) p
    | none => (done.reverse, p)

/-- The breaks of the empty lines at the start, and the greatest column that spaces reach in them
or in the line after. -/
def leadingLines : Nat → Nat → List Char → Cursor → List Char × Nat × Cursor
  | 0, widest, done, p => (done.reverse, widest, p)
  | fuel + 1, widest, done, p =>
    let p := p.skipSpaces
    let widest := max widest p.column
    match p.takeBreak? with
    | some (c, p) => leadingLines fuel widest (c :: done) p
    | none => (done.reverse, widest, p)

/-- The lines of a block scalar at an indentation: what they hold and the breaks between them, the
last break with those after it, and the place after all. `breaks` are the empty lines before and
`done` is in reverse. -/
def blockLines (folded : Bool) (indent : Nat) :
    Nat → List Char → List Char → Option Char → Cursor →
      List Char × Option Char × List Char × Cursor
  | 0, done, breaks, last, p => (done.reverse, last, breaks, p)
  | fuel + 1, done, breaks, last, p =>
    if p.column != indent || p.rest.isEmpty then (done.reverse, last, breaks, p)
    else
      let startsBlank := p.peek?.any isSpaceOrTab
      let (content, q) := p.span (!isBreak ·)
      let (last, q) :=
        match q.takeBreak? with
        | some (c, q) => (some c, q)
        | none => (none, q)
      let (further, q) := emptyLines indent (fuel + 1) [] q
      let done := content.reverse ++ breaks.reverse ++ done
      if q.column != indent || q.rest.isEmpty then (done.reverse, last, further, q)
      else if folded && last == some '\n' && !startsBlank && !q.peek?.any isSpaceOrTab then
        blockLines folded indent fuel (if further.isEmpty then ' ' :: done else done) further none q
      else blockLines folded indent fuel (last.toList ++ done) further none q

/-- The text of a block scalar from its indicator on, in a structure with an indentation. -/
def blockScalar (outer : Int) (p : Cursor) : Except Problem (List Char × Cursor) := do
  let folded := p.peek? == some '>'
  let (header, p) ← blockHeader p.next
  let p ← p.restOfLine
  let least := (max (outer + 1) 1).toNat
  let (breaks, indent, p) :=
    match header.increment with
    | some n =>
      let indent := least + n - 1
      let (breaks, p) := emptyLines indent (p.rest.length + 1) [] p
      (breaks, indent, p)
    | none =>
      let (breaks, widest, p) := leadingLines (p.rest.length + 1) 0 [] p
      (breaks, max least widest, p)
  let (content, last, breaks, p) := blockLines folded indent (p.rest.length + 1) [] breaks none p
  let tail :=
    match header.chomping with
    | .strip => []
    | .clip => last.toList
    | .keep => last.toList ++ breaks
  return (content ++ tail, p)

end LoadPlan.Yaml
