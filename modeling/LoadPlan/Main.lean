import LoadPlan.Command.Run

/-!
# The program

Runs a command line on the files that it names, and then writes the files that it has changed.
-/

open LoadPlan

/-- What a path leads to in the file system. -/
def itemOnDisk (path : String) : IO (Option Files.Item) := do
  let place := (← IO.currentDir) / path
  if ← place.isDir then return some .directory
  if ← place.pathExists then return some (.file (← IO.FS.readBinFile place).data.toList)
  return none

/-- A path and the paths above it, from the outermost on. -/
def pathsAlong (p : Path) : List Path :=
  (List.range p.names.length).map fun i => { p with names := p.names.take (i + 1) }

/-- A tree with what a path leads to, and with the directories above it. -/
def withPath (files : Files.Tree) (p : Path) : IO Files.Tree :=
  (pathsAlong p).foldlM (fun files q => do
    match ← itemOnDisk (toString q) with
    | some item => return files.put q item
    | none => return files) files

/-- The texts in a word of a command line that can be paths: the word, and values that are written
in it. -/
def pathsIn (word : String) : List String :=
  let behindOption := String.ofList (word.toList.drop 2)
  let behindEquals := (Command.splitAtEquals word.toList).2.toList
  word :: behindOption :: behindEquals

/-- The files that a command line names. -/
def filesNamed (args : List String) : IO Files.Tree :=
  ((args.flatMap pathsIn).map Path.ofString).foldlM withPath ⟨[]⟩

/-- Writes a file, with the directories above it. -/
def writeOnDisk (p : Path) (bytes : List UInt8) : IO Unit := do
  if !p.parent.names.isEmpty then IO.FS.createDirAll (toString p.parent)
  IO.FS.writeBinFile (toString p) ⟨bytes.toArray⟩

/-- Writes the files of a tree that are not the same in an earlier one. -/
def writeChanges (before after : Files.Tree) : IO Unit :=
  after.items.forM fun (p, item) =>
    match item with
    | .file bytes => if before.at? p = some item then pure () else writeOnDisk p bytes
    | .directory => pure ()

/-- Runs the program. -/
def main (args : List String) : IO UInt32 := do
  let files ← filesNamed args
  let outcome := Command.run files args
  writeChanges files outcome.files
  outcome.output.forM fun line => IO.println line
  outcome.errors.forM fun line => IO.eprintln line
  match outcome.escaped with
  | some fault => IO.eprintln fault.message
  | none => pure ()
  return UInt32.ofNat outcome.status
