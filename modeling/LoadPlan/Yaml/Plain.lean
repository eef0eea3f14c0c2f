import LoadPlan.Yaml.Quoted

/-!
# Plain scalars of YAML

Text without quotes. It ends before a colon or a comment that a blank sets off, before the
indicators of flow collections inside them, and where a line is indented too little.
-/

namespace LoadPlan.Yaml

/-- The characters that are indicators inside flow collections. -/
def flowIndicators : List Char :=
  [',', '[', ']', '\x7b', '\x7d']

/-- Whether a plain scalar can start at a place. -/
def startsPlain (inFlow : Bool) (p : Cursor) : Bool :=
  match p.peek? with
  | none => false
  | some c =>
    if isSpaceOrTab c || isBreak c then false
    else if "-?:,[]\x7b\x7d#&*!|>'\"%@\x60".toList.contains c then
      !separates p.second? && (c == '-' || (!inFlow && (c == '?' || c == ':')))
    else true

/-- The number of characters of a word: up to a blank, a colon before a blank, or an indicator of
flow collections inside one. -/
def wordLength (inFlow : Bool) : List Char → Nat
  | [] => 0
  | c :: rest =>
    if isSpaceOrTab c || isBreak c then 0
    else if c == ':' && (separates rest.head? || (inFlow && rest.head?.any flowIndicators.contains))
    then 0
    else if inFlow && (c == '?' || flowIndicators.contains c) then 0
    else wordLength inFlow rest + 1

/-- Breaks after a break in a plain scalar, with spaces left out; nothing if a document starts or
ends there. -/
def plainBreaks : Nat → List Char → Cursor → Option (List Char) × Cursor
  | 0, done, p => (some done.reverse, p)
  | fuel + 1, done, p =>
    let p := p.skipSpaces
    match p.takeBreak? with
    | none => (some done.reverse, p)
    | some (c, p) =>
      if p.atDocumentMarker then (none, p) else plainBreaks fuel (c :: done) p

/-- What stands between two words: the text of it, whether a line ends in it, and the place after.
It is empty if the scalar ends here. -/
def plainBlanks (p : Cursor) : List Char × Bool × Cursor :=
  let (spaces, p) := p.span (· == ' ')
  match p.takeBreak? with
  | none => (spaces, false, p)
  | some (first, p) =>
    if p.atDocumentMarker then ([], true, p)
    else
      match plainBreaks (p.rest.length + 1) [] p with
      | (none, p) => ([], true, p)
      | (some further, p) => (foldBreaks first further, true, p)

/-- A plain scalar that has been read: its text, the place after it, and whether the last thing in
it was a break, behind which a new key can start. -/
structure PlainScalar where
  text : List Char
  place : Cursor
  afterBreak : Bool

/-- The rest of a plain scalar, at a place where a word can start. `blanks` are before it, and
`done` is in reverse. -/
def plainWords (inFlow : Bool) (indent : Int) : Nat → PlainScalar → List Char → PlainScalar
  | 0, done, _ => done
  | fuel + 1, done, blanks =>
    let p := done.place
    let n := if p.peek? == some '#' then 0 else wordLength inFlow p.rest
    if n == 0 then done
    else
      let text := (p.rest.take n).reverse ++ blanks.reverse ++ done.text
      let (blanks, broke, q) := plainBlanks (p.drop n)
      let done : PlainScalar := ⟨text, q, broke⟩
      if blanks.isEmpty || q.peek? == some '#' || (!inFlow && (q.column : Int) < indent) then done
      else plainWords inFlow indent fuel done blanks

/-- The plain scalar at a place, in a structure with an indentation. -/
def plainScalar (inFlow : Bool) (outer : Int) (p : Cursor) : PlainScalar :=
  let scalar := plainWords inFlow (outer + 1) (p.rest.length + 1) ⟨[], p, false⟩ []
  { scalar with text := scalar.text.reverse }

end LoadPlan.Yaml
