import LoadPlan.Files.Path

/-!
# Trees of files

A file tree holds the directories and files below a working directory, each under its path. Reading
and writing go through the tree and give a new one; what can go wrong is listed in `Problem`, with
the path it concerns.
-/

namespace LoadPlan.Files

/-- What a path leads to. -/
inductive Item where
  | directory
  | file (bytes : List UInt8)
  deriving DecidableEq, Repr

/-- The items below the working directory by their paths, which hold no two dots. -/
structure Tree where
  items : List (Path × Item)

/-- Why a path cannot be used. -/
inductive Cause where
  | missing
  | exists
  | notDirectory
  | isDirectory
  | nameTooLong
  /-- The path holds a null character. -/
  | nullCharacter
  deriving DecidableEq, Repr

/-- A cause and the path it concerns. -/
structure Problem where
  cause : Cause
  path : Path
  deriving DecidableEq, Repr

/-- The number and wording of a cause. -/
def Cause.wording : Cause → String
  | .missing => "[Errno 2] No such file or directory"
  | .exists => "[Errno 17] File exists"
  | .notDirectory => "[Errno 20] Not a directory"
  | .isDirectory => "[Errno 21] Is a directory"
  | .nameTooLong => "[Errno 36] File name too long"
  | .nullCharacter => "embedded null byte"

/-- The wording of a problem, where a path is quoted by `quote`. -/
def Problem.message (quote : String → String) (p : Problem) : String :=
  if p.cause = .nullCharacter then p.cause.wording
  else p.cause.wording ++ ": " ++ quote (toString p.path)

/-- The most bytes of a name. -/
def maxName : Nat := 255

/-- The most bytes of a path. -/
def maxPath : Nat := 4095

namespace Tree

/-- The item at a path without two dots. -/
def at? (t : Tree) (p : Path) : Option Item :=
  if p.names.isEmpty then some .directory else (t.items.find? fun e => e.1 == p).map (·.2)

/-- Follows names from a directory to the place they lead to. The last name need not exist; the
others must be directories. -/
def follow (t : Tree) (place : Path) : List String → Except Cause Path
  | [] => .ok place
  | name :: rest =>
    match t.at? place with
    | none => .error .missing
    | some (.file _) => .error .notDirectory
    | some .directory =>
      if maxName < name.utf8ByteSize then .error .nameTooLong
      else if name = ".." then follow t place.parent rest
      else follow t { place with names := place.names ++ [name] } rest

/-- The place that a path leads to. -/
def locate (t : Tree) (p : Path) : Except Cause Path :=
  if (toString p).toList.contains '\x00' then .error .nullCharacter
  else if maxPath < (toString p).utf8ByteSize then .error .nameTooLong
  else follow t ⟨p.root, []⟩ p.names

/-- What a path leads to. -/
def find (t : Tree) (p : Path) : Except Cause Item :=
  match t.locate p with
  | .error cause => .error cause
  | .ok place =>
    match t.at? place with
    | some item => .ok item
    | none => .error .missing

/-- Whether a path leads to a directory. -/
def isDirectory (t : Tree) (p : Path) : Bool :=
  t.find p matches .ok .directory

/-- The bytes of the file at a path. -/
def read (t : Tree) (p : Path) : Except Problem (List UInt8) :=
  match t.find p with
  | .error cause => .error ⟨cause, p⟩
  | .ok .directory => .error ⟨.isDirectory, p⟩
  | .ok (.file bytes) => .ok bytes

/-- A tree with the item at a place replaced or added. -/
def put (t : Tree) (place : Path) (item : Item) : Tree :=
  ⟨t.items.filter (fun e => e.1 != place) ++ [(place, item)]⟩

/-- A tree with a new directory. -/
def addDirectory (t : Tree) (p : Path) : Except Cause Tree :=
  match t.locate p with
  | .error cause => .error cause
  | .ok place =>
    match t.at? place with
    | some _ => .error .exists
    | none => .ok (t.put place .directory)

/-- A tree with the directory at `p`, made unless it is there. -/
def ensureDirectory (t : Tree) (p : Path) : Except Problem Tree :=
  match t.addDirectory p with
  | .ok t => .ok t
  | .error cause =>
    if cause != .nullCharacter && t.isDirectory p then .ok t else .error ⟨cause, p⟩

/-- A tree with the directory at `p` and those above it, made unless they are there; `depth` bounds
how many. The tree stays as it became even if the last step fails. -/
def ensureDirectories : Nat → Tree → Path → Tree × Option Problem
  | 0, t, _ => (t, none)
  | depth + 1, t, p =>
    match t.addDirectory p with
    | .ok t => (t, none)
    | .error .missing =>
      if p.parent = p then (t, some ⟨.missing, p⟩)
      else
        match ensureDirectories depth t p.parent with
        | (t, some problem) => (t, some problem)
        | (t, none) =>
          match t.ensureDirectory p with
          | .ok t => (t, none)
          | .error problem => (t, some problem)
    | .error cause =>
      if cause != .nullCharacter && t.isDirectory p then (t, none) else (t, some ⟨cause, p⟩)

/-- A tree with a file written, new or in place of another. -/
def writeFile (t : Tree) (p : Path) (bytes : List UInt8) : Except Problem Tree :=
  match t.locate p with
  | .error cause => .error ⟨cause, p⟩
  | .ok place =>
    match t.at? place with
    | some .directory => .error ⟨.isDirectory, p⟩
    | some (.file _) => .ok (t.put place (.file bytes))
    | none =>
      match t.at? place.parent with
      | some .directory => .ok (t.put place (.file bytes))
      | some (.file _) => .error ⟨.notDirectory, p⟩
      | none => .error ⟨.missing, p⟩

/-- A tree with a file written at a path, and with the directories above it. -/
def write (t : Tree) (p : Path) (bytes : List UInt8) : Tree × Option Problem :=
  match ensureDirectories (p.names.length + 1) t p.parent with
  | (t, some problem) => (t, some problem)
  | (t, none) =>
    match t.writeFile p bytes with
    | .ok t => (t, none)
    | .error problem => (t, some problem)

end Tree

end LoadPlan.Files
