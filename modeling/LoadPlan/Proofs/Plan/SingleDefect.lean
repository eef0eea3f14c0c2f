import LoadPlan.Proofs.Plan.EditedParts
import LoadPlan.Proofs.Plan.EditedRoot
import LoadPlan.Proofs.Plan.Wording

/-!
# Each single defect is reported alone

If the plan of a test is reviewed as valid, then after one edit of its tree a review reports one
defect, the one that the edit made, under the name of what was edited (`defects_pinDown`). All parts
of a compiled test have names, and its thread groups own one listener each, so the edits of parts
and of the root leave nothing else behind.
-/

namespace LoadPlan.Plan

open Xml (Node isChar)

/-- Single edits of a tree, each reported as one defect with the name of what was edited. -/
structure PinsDown (root : Node) : Prop where
  listener : ∀ k group, (below root "ThreadGroup")[k]? = some group →
    ∃ name, group.attribute? "testname" = some name ∧
      Reports (root.changeBelow "ThreadGroup" withoutListener k) (.noListener name)
  method : ∀ k sampler, (below root "HTTPSamplerProxy")[k]? = some sampler →
    ∃ name, sampler.attribute? "testname" = some name ∧
      Reports (root.changeBelow "HTTPSamplerProxy" withoutMethod k) (.noMethod name)
  testStrings : ∀ k assertion, (below root "ResponseAssertion")[k]? = some assertion →
    ∃ name, assertion.attribute? "testname" = some name ∧
      Reports (root.changeBelow "ResponseAssertion" withoutTestStrings k) (.noTestStrings name)
  /-- In the tree any other value is found, in a text one that can be written. -/
  rootAttribute : ∀ name expected value, (name, expected) ∈ rootAttributes → value ≠ expected →
    defects (withAttribute root name value) = [.rootAttribute name expected (some value)] ∧
      ((∀ c ∈ value.toList, isChar c = true) →
        Reports (withAttribute root name value) (.rootAttribute name expected (some value)))
  testPlan : Reports (withoutTestPlan root) .noTestPlan

/-! ## Compiled tests -/

theorem TestElement.Sound.isTest {t : TestElement} (h : t.Sound) :
    ∀ p ∈ t.parts, p.element.IsTest := by
  induction h with
  | @mk element owned test inside ih =>
    rw [parts, List.forall_mem_cons, partsOf_eq_flatMap, List.forall_mem_flatMap]
    exact ⟨test, ih⟩

theorem IsDetail.attribute? {t : TestElement} (h : IsDetail t) :
    ∃ name, t.element.toNode.attribute? "testname" = some name := by
  cases h <;> exact ⟨_, attribute?_standard _ _ _ _⟩

section Compiled

variable (settings : Settings) (t : Test)

theorem compiledTest_named : ∀ p ∈ partsOf (compiledTest settings t).part.elements,
    p.element.IsNamed := by
  have htest : ∀ p ∈ partsOf (compiledTest settings t).part.elements, p.element.IsTest := by
    rw [partsOf_eq_flatMap, List.forall_mem_flatMap]
    exact fun p hp => ((compiledTest_sound settings t).inside p hp).isTest
  have hname : ∀ p ∈ partsOf (compiledTest settings t).part.elements,
      ∃ name, p.element.toNode.attribute? "testname" = some name := by
    rw [forall_partsOf]
    refine ⟨⟨_, attribute?_standard _ _ _ _⟩, fun s _ => ⟨⟨_, attribute?_standard _ _ _ _⟩,
      fun r _ => ⟨?_, ?_⟩, ⟨_, attribute?_standard _ _ _ _⟩⟩⟩
    · exact ⟨_, attribute?_requestPart r⟩
    · exact fun d hd => (details_isDetail r d hd).attribute?
  exact fun p hp => ⟨htest p hp, hname p hp, compiledTest_tags settings t p hp⟩

/-- The listener at the end of a thread group is its only one. -/
theorem scenarioPart_listeners (s : Scenario) :
    "BackendListener" ∉ tagsOf (scenarioPart settings s).part.withoutListener.owned := by
  have hrequests : ∀ p ∈ s.requests.map (fun r => (requestPart r).part),
      ¬ (p.element.tag == "BackendListener") = true := by
    simp
  rw [TestElement.withoutListener, scenarioPart_owned, List.eraseP_append_right _ hrequests,
    List.eraseP_cons_of_pos (by simp), List.append_nil, tagsOf]
  simp

theorem compiledTest_listeners : ∀ p ∈ partsOf (compiledTest settings t).part.elements,
    p.element.tag = "ThreadGroup" → "BackendListener" ∉ tagsOf p.withoutListener.owned := by
  have hdetail (r : Request) : ∀ d ∈ details r, d.element.tag ≠ "ThreadGroup" :=
    fun d hd => (details_isDetail r d hd).tag_ne (by decide)
  rw [forall_partsOf]
  simpa [scenarioPart_listeners] using fun _ _ r _ d hd htag => absurd htag (hdetail r d hd)

theorem compiledTest_isClean (h : defects (compiledTest settings t).part.toNode = []) :
    (compiledTest settings t).part.IsClean where
  sound := compiledTest_sound settings t
  named := compiledTest_named settings t
  defects := h

/-- The tree of a compiled test without defects pins down each single edit. -/
theorem compiledTest_pinsDown (h : defects (compiledTest settings t).part.toNode = []) :
    PinsDown (compiledTest settings t).part.toNode := by
  have hclean := compiledTest_isClean settings t h
  constructor
  case listener =>
    intro k group
    exact reports_of_change hclean (f := TestElement.withoutListener) (by decide) (by decide)
      (fun p rest _ _ => withoutListener_part rest)
      fun p hp hpart htag =>
        withoutListener_hasOnly hpart htag (compiledTest_listeners settings t p hp htag)
  case method =>
    intro k sampler
    exact reports_of_change hclean (f := TestElement.withoutMethod) (by decide) (by decide)
      (fun p rest htest _ => withoutMethod_part htest rest)
      fun p _ hpart htag => withoutMethod_hasOnly hpart htag
  case testStrings =>
    intro k assertion
    exact reports_of_change hclean (f := TestElement.withoutTestStrings) (by decide) (by decide)
      (fun p rest htest _ => withoutTestStrings_part htest rest)
      fun p _ hpart htag => withoutTestStrings_hasOnly hpart htag
  case rootAttribute =>
    exact fun name expected value hmust hvalue =>
      ⟨defects_withAttribute h hmust hvalue, reports_withAttribute hclean hmust hvalue⟩
  case testPlan =>
    exact reports_withoutTestPlan (compiledTest_elements settings t) (planPart_tag settings t)
      hclean

/-! ## Rendered tests -/

variable {settings t}

/-- What is rendered of a test is reviewed as valid if the tree of its plan has no defects. -/
theorem isValid_of_toXml {xml : String} {notices : List Notice}
    (hxml : (toXml settings t).outcome = (.ok xml, notices)) :
    ∃ review, reviewText xml = .ok review ∧
      (review.isValid = true ↔ defects (compiledTest settings t).part.toNode = []) := by
  obtain ⟨tree, hread, hlayout⟩ := readFrom_of_toXml settings hxml
  refine ⟨review tree, by rw [reviewText, hread], ?_⟩
  rw [Review.isValid, review, List.isEmpty_iff,
    defects_of_layout (compiledTest_samplersPlain settings t) hlayout]

/-- If what is rendered of a test is reviewed as valid, then after each single edit of the tree of
its plan a review reports the one defect of the edit. -/
theorem defects_pinDown {xml : String} {notices : List Notice}
    (hxml : (toXml settings t).outcome = (.ok xml, notices)) {review : Review}
    (hreview : reviewText xml = .ok review) (hvalid : review.isValid = true) :
    ∃ plan, (compile settings t).outcome = (.ok plan, notices) ∧ PinsDown plan.part.toNode := by
  obtain ⟨plan, hplan, -⟩ := exists_compile_of_toXml settings hxml
  obtain rfl := eq_compiledTest settings (Logged.result_of_outcome hplan)
  obtain ⟨found, hfound, hclean⟩ := isValid_of_toXml hxml
  obtain rfl : found = review := Except.ok.inj (hfound.symm.trans hreview)
  exact ⟨_, hplan, compiledTest_pinsDown settings t (hclean.mp hvalid)⟩

end Compiled

/-- The sample has one thread group, two samplers and one assertion to be edited. -/
theorem defects_pinDown_sampleTest : ∃ xml notices review plan,
    (toXml {} sampleTest).outcome = (.ok xml, notices) ∧ reviewText xml = .ok review ∧
      review.isValid = true ∧ (compile {} sampleTest).outcome = (.ok plan, notices) ∧
      ["ThreadGroup", "HTTPSamplerProxy", "ResponseAssertion"].map
        (fun tag => (below plan.part.toNode tag).length) = [1, 2, 1] ∧
      PinsDown plan.part.toNode := by
  have hmethods : ∀ s ∈ sampleTest.scenarios, ∀ r ∈ s.requests, planText r.method ≠ "" := by
    simp only [sampleTest, List.forall_mem_cons, List.not_mem_nil, false_implies, implies_true,
      and_true]
    decide +kernel
  obtain ⟨xml, hxml⟩ := toXml_of_hasMethod {} hasMethod_sampleTest
  obtain ⟨review, hreview, hvalid⟩ := isValid_of_toXml hxml
  have hclean := (compiledTest_defects {} sampleTest).mpr ⟨by decide +kernel, hmethods⟩
  obtain ⟨plan, hplan, hpins⟩ := defects_pinDown hxml hreview (hvalid.mpr hclean)
  have hfound : ["ThreadGroup", "HTTPSamplerProxy", "ResponseAssertion"].map
      (fun tag => (below plan.part.toNode tag).length) = [1, 2, 1] := by
    rw [eq_compiledTest {} (Logged.result_of_outcome hplan)]
    decide +kernel
  exact ⟨xml, _, review, plan, hxml, hreview, hvalid.mpr hclean, hplan, hfound, hpins⟩

end LoadPlan.Plan
