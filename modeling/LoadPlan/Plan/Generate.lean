import LoadPlan.Plan.Compile

/-!
# Writing a plan

Compiles a test and writes its plan to a file. Whatever goes wrong is one kind of fault, and then no
file has changed; directories above the file may have been made.
-/

namespace LoadPlan.Plan

/-- A written plan. -/
structure Generated where
  path : Path
  stats : Stats

/-- The outcome of writing a plan, with the files as they are afterwards. -/
structure Attempt where
  files : Files.Tree
  notices : List Notice
  result : Except Fault Generated

/-- The text of a plan and its counts. -/
def rendered (settings : Settings) (t : Test) : Logged (String × Stats) := do
  let plan ← compile settings t
  let xml ← plan.part.render
  return (xml, plan.stats)

/-- A fault as one of writing a plan. -/
def asGeneration : Fault → Fault
  | .notATest kind => .notATest kind
  | .generation cause => .generation cause
  | fault => .generation fault.message

/-- Compiles a test and writes its plan. -/
def generate (settings : Settings) (test : Logged Test) (files : Files.Tree) (output : String) :
    Attempt :=
  match (test >>= rendered settings).outcome with
  | (.error fault, notices) => ⟨files, notices, .error (asGeneration fault)⟩
  | (.ok (xml, stats), notices) =>
    let path := Path.ofString output
    match files.write path xml.toUTF8.data.toList with
    | (files, some problem) => ⟨files, notices, .error (asGeneration (.system problem))⟩
    | (files, none) => ⟨files, notices ++ [.generated stats], .ok ⟨path, stats⟩⟩

end LoadPlan.Plan
