/-!
# Counts of a plan

What a compiled plan is made of, in numbers.
-/

namespace LoadPlan

/-- The numbers of the parts of a plan. -/
structure Stats where
  threadGroups : Nat := 0
  samplers : Nat := 0
  headerManagers : Nat := 0
  arguments : Nat := 0
  bodies : Nat := 0
  assertions : Nat := 0
  durationAssertions : Nat := 0
  deriving DecidableEq, Repr, Inhabited

namespace Stats

/-- The counts of two plans together. -/
def add (a b : Stats) : Stats where
  threadGroups := a.threadGroups + b.threadGroups
  samplers := a.samplers + b.samplers
  headerManagers := a.headerManagers + b.headerManagers
  arguments := a.arguments + b.arguments
  bodies := a.bodies + b.bodies
  assertions := a.assertions + b.assertions
  durationAssertions := a.durationAssertions + b.durationAssertions

instance : Add Stats := ⟨Stats.add⟩

/-- The counts under their names. -/
def toList (s : Stats) : List (String × Nat) :=
  [("thread_groups", s.threadGroups), ("samplers", s.samplers),
   ("header_managers", s.headerManagers), ("arguments", s.arguments), ("bodies", s.bodies),
   ("assertions", s.assertions), ("duration_assertions", s.durationAssertions)]

/-- The number of assertions of either kind. -/
def allAssertions (s : Stats) : Nat :=
  s.assertions + s.durationAssertions

/-- The counts in a sentence. -/
def summary (s : Stats) : String :=
  s!"Generated JMX test plan with {s.threadGroups} thread groups, " ++
    s!"{s.samplers} HTTP samplers, {s.headerManagers} header managers " ++
    s!"and {s.allAssertions} assertions."

end Stats

end LoadPlan
