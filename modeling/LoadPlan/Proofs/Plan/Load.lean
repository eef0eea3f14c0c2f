import LoadPlan.Proofs.Plan.TestStrings

/-!
# The load that a plan carries

In a rendered plan the settings stand once for each scenario: every thread group has the numbers of
threads, seconds and loops, and every listener has the class of the settings. Numbers are read as
they are, and the class as a text.
-/

namespace LoadPlan.Plan

open Xml (Node ReadFrom readText isSpace)

/-- The texts in which a thread group says how much load it puts on a server. -/
structure Load where
  threads : String
  rampTime : String
  loops : String
  deriving DecidableEq, Repr

/-- The load of a thread group. The loops stand in a controller of their own. -/
def loadOf (group : Node) : Load where
  threads := propertyText group "ThreadGroup.num_threads"
  rampTime := propertyText group "ThreadGroup.ramp_time"
  loops := ((property? group "elementProp" "ThreadGroup.main_controller").map
    (propertyText · "LoopController.loops")).getD ""

/-- The class of a listener. -/
def listenerClass (listener : Node) : String :=
  propertyText listener "classname"

theorem stringProp_readFrom {read written : Node} (h : ReadFrom read written) {name : String}
    (hname : ∀ c ∈ name.toList, isSpace c = false) {v : Value}
    (hwritten : property? written "stringProp" name = some (stringProp name v).toNode) :
    propertyText read name = readText (planText v) := by
  obtain ⟨q, hq, hread⟩ := exists_property? h hname hwritten
  rw [propertyText, hq, Option.map_some, Option.getD_some]
  exact (hread.ownText (property_isLeaf _ _ _)).trans (congrArg readText (ownText_stringProp name v))

/-- The load of a thread group that was read is that of the settings. -/
theorem loadOf_readFrom {n : Node} {settings : Settings} {s : Scenario}
    (h : ReadFrom n (scenarioPart settings s).part.element.toNode) :
    loadOf n = ⟨readText (planText settings.threads), readText (planText settings.rampTime),
      readText (planText settings.loops)⟩ := by
  have hcontroller : property? (scenarioPart settings s).part.element.toNode "elementProp"
      "ThreadGroup.main_controller" =
        some (elementProp "ThreadGroup.main_controller" "LoopController"
          (fixedAttributes "LoopControlPanel" "LoopController" (some "Loop Controller"))
          [boolProp "LoopController.continue_forever" false,
           stringProp "LoopController.loops" settings.loops]).toNode := rfl
  obtain ⟨q, hq, hread⟩ := exists_property? h (by simp [isSpace]) hcontroller
  have hloops : propertyText q "LoopController.loops" = readText (planText settings.loops) :=
    stringProp_readFrom hread (by simp [isSpace]) rfl
  rw [loadOf, Load.mk.injEq]
  refine ⟨stringProp_readFrom h (by simp [isSpace]) rfl,
    stringProp_readFrom h (by simp [isSpace]) rfl, ?_⟩
  rw [hq, Option.map_some, Option.getD_some, hloops]

theorem listenerClass_readFrom {n : Node} {settings : Settings}
    (h : ReadFrom n (listenerPart settings).element.toNode) :
    listenerClass n = readText (planText settings.listener) :=
  stringProp_readFrom h (by simp [isSpace]) rfl

theorem withTag_backendListener (settings : Settings) (t : Test) :
    (compiledTest settings t).part.toNode.withTag "BackendListener" =
      t.scenarios.map fun _ => (listenerPart settings).element.toNode := by
  have hdetails (r : Request) : (details r).filter (·.element.tag == "BackendListener") = [] :=
    details_other r (by decide)
  have hrequests (s : Scenario) : (s.requests.flatMap fun _ => ([] : List TestElement)) = [] :=
    List.flatMap_eq_nil_iff.mpr fun _ _ => rfl
  rw [compiledTest_withTag settings t (by decide) (by decide) (by decide)]
  simp [hdetails, hrequests, List.map_eq_flatMap, List.flatMap_assoc]

/-- A plan that carries settings: their load in each of some thread groups, and their class in each
of as many listeners. -/
structure Carries (settings : Settings) (groups : Nat) (root : Node) : Prop where
  loads : (root.withTag "ThreadGroup").map loadOf = List.replicate groups
    ⟨readText (planText settings.threads), readText (planText settings.rampTime),
      readText (planText settings.loops)⟩
  classes : (root.withTag "BackendListener").map listenerClass =
    List.replicate groups (readText (planText settings.listener))

/-- A rendered plan carries its settings, once for each scenario. -/
theorem carries_of_readFrom {settings : Settings} {t : Test} {tree : Node}
    (h : ReadFrom tree (compiledTest settings t).part.toNode) :
    Carries settings t.scenarios.length tree where
  loads := by
    have hread := h.withTag "ThreadGroup"
    rw [withTag_threadGroup] at hread
    rw [map_eq_of_forall₂ hread fun n s _ hn => loadOf_readFrom hn, List.map_const']
  classes := by
    have hread := h.withTag "BackendListener"
    rw [withTag_backendListener] at hread
    rw [map_eq_of_forall₂ hread fun n s _ hn => listenerClass_readFrom hn, List.map_const']

end LoadPlan.Plan
