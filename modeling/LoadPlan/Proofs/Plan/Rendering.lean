import LoadPlan.Proofs.Plan.Parts

/-!
# Rendering loses nothing

A test that compiles is rendered, with the notices of its compilation, and a reader sees in the text
the tree of its plan: tags, children and names of attributes are the same, and of values only line
ends and blanks change.
-/

namespace LoadPlan.Plan

open Logged

/-- The text of the plan of a test is read as the tree of the plan. -/
theorem read_toXml {settings : Settings} {t : Test} {plan : Counted Document}
    {notices : List Notice} (h : (compile settings t).outcome = (.ok plan, notices)) :
    ∃ xml tree, (toXml settings t).outcome = (.ok xml, notices) ∧
      Xml.read xml.toUTF8.data.toList = .ok tree ∧
      tree.dropLayout = plan.part.toNode.asRead := by
  have hsound : plan.part.Sound := by
    rw [eq_compiledTest settings (result_of_outcome h)]
    exact compiledTest_sound settings t
  obtain ⟨xml, tree, hrender, hread, hdrop⟩ := hsound.read_render
  exact ⟨xml, tree, by rw [toXml_outcome settings h, hrender], hread, hdrop⟩

/-- A test with markup, line ends and blanks in its values. -/
def markupTest : Test where
  name := .text "a < b & \"c\""
  scenarios :=
    [{ name := .text "line\r\nend\ttab"
       requests :=
         [{ name := .text "]]>"
            method := .text "post"
            headers := [{ name := .text "X", value := .text "&amp;" }]
            body := some { raw := .text "  \r\n" } }] }]

theorem read_toXml_markupTest :
    (compile {} markupTest).outcome =
        (.ok (compiledTest {} markupTest), (compile {} markupTest).outcome.2) ∧
      ∃ xml tree, (toXml {} markupTest).outcome = (.ok xml, (compile {} markupTest).outcome.2) ∧
        Xml.read xml.toUTF8.data.toList = .ok tree ∧
        tree.dropLayout = (compiledTest {} markupTest).part.toNode.asRead := by
  have hmethods : ∀ s ∈ markupTest.scenarios, ∀ r ∈ s.requests, HasMethod r := by
    simp only [markupTest, List.forall_mem_singleton]
    rfl
  have h := outcome_eq_ok (compile_result_of_hasMethod {} hmethods)
  exact ⟨h, read_toXml h⟩

end LoadPlan.Plan
