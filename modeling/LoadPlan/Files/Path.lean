/-!
# Paths

A path is a root, empty for a relative path, and the names below it. Empty names and single dots
disappear when a path is read, while two dots stay.
-/

namespace LoadPlan

/-- A path: its root, if it is absolute, and its names. -/
structure Path where
  root : String
  names : List String
  deriving DecidableEq, Repr, Inhabited

namespace Path

/-- Whether a piece of a path between slashes is a name. -/
def isName (piece : List Char) : Bool :=
  !piece.isEmpty && piece != ['.']

/-- The path that a text writes. Exactly two leading slashes are a root of their own. -/
def ofString (s : String) : Path :=
  let cs := s.toList
  let slashes := (cs.takeWhile (· == '/')).length
  let root := if slashes = 0 then "" else if slashes = 2 then "//" else "/"
  ⟨root, ((cs.splitOn '/').filter isName).map String.ofList⟩

/-- The text of a path; the empty path is a dot. -/
def toString (p : Path) : String :=
  let body := p.root ++ String.intercalate "/" p.names
  if body.isEmpty then "." else body

instance : ToString Path := ⟨Path.toString⟩

/-- The last name of a path. -/
def name (p : Path) : String :=
  p.names.getLastD ""

/-- A path without its last name. -/
def parent (p : Path) : Path :=
  { p with names := p.names.dropLast }

/-- A path below another; an absolute one stands on its own. -/
def join (p q : Path) : Path :=
  if q.root.isEmpty then { p with names := p.names ++ q.names } else q

/-- The characters of a name before its last dot and from it on, if the dot is neither the first
nor the last character. -/
def splitSuffix (name : List Char) : List Char × List Char :=
  let back := name.reverse
  let extension := back.takeWhile (· != '.')
  match back.dropWhile (· != '.') with
  | dot :: c :: rest =>
    if extension.isEmpty then (name, []) else ((c :: rest).reverse, dot :: extension.reverse)
  | _ => (name, [])

/-- The last name of a path without its suffix. -/
def stem (p : Path) : String :=
  String.ofList (splitSuffix p.name.toList).1

/-- The suffix of the last name of a path, with its dot, or nothing. -/
def suffix (p : Path) : String :=
  String.ofList (splitSuffix p.name.toList).2

end Path

end LoadPlan
