import LoadPlan.Proofs.Plan.CompactReview
import LoadPlan.Proofs.Plan.Edits
import LoadPlan.Proofs.Plan.ReadBack
import LoadPlan.Proofs.Plan.Structure

/-!
# Edited parts

A thread group without its listener, a sampler without its method and an assertion without test
strings have one defect each, and in a plan without defects that is the only one, wherever the part
is (`reports_of_change`). A thread group that loses its one listener does not end with another,
whatever stood before it (`withoutListener_hasOnly`).
-/

namespace LoadPlan.Plan

open Xml (Node)

/-! ## Parts with one defect -/

/-- A part without defects that owns only such parts. -/
structure TestElement.IsClean (p : TestElement) : Prop where
  named : ∀ x ∈ p.parts, x.element.IsNamed
  none : ∀ x ∈ p.parts, partDefects x = []

/-- A part with a tag that has one defect, and owns no part with another. -/
structure HasOnly (p : TestElement) (tag : String) (defect : Defect) : Prop where
  tag : p.element.tag = tag
  named : ∀ x ∈ p.parts, x.element.IsNamed
  defects : p.parts.flatMap partDefects = [defect]

@[simp]
theorem TestElement.parts_cons (p : TestElement) : p.parts = p :: partsOf p.owned := by
  obtain ⟨element, owned⟩ := p
  rfl

theorem TestElement.IsClean.self {p : TestElement} (h : p.IsClean) : p.element.IsNamed :=
  h.named p (by simp)

theorem Element.IsNamed.attribute? {e : Element} (h : e.IsNamed) :
    e.toNode.attribute? "testname" = some (calledAs e.toNode) := by
  obtain ⟨name, hname⟩ := h.named
  rw [calledAs, hname, Option.getD_some]

/-- The name of an element does not depend on its properties. -/
theorem calledAs_properties (e : Element) (properties : List Element) :
    calledAs ({ e with properties := properties } : Element).toNode = calledAs e.toNode := by
  obtain ⟨tag, attributes, text, inside⟩ := e
  rfl

theorem Element.IsNamed.withProperties {e : Element} (h : e.IsNamed) {properties : List Element}
    (hinside : ∀ p ∈ properties, p.IsProperty) :
    ({ e with properties := properties } : Element).IsNamed where
  test := ⟨h.test.tagged, h.test.named, h.test.bare, hinside⟩
  named := by
    obtain ⟨name, hname⟩ := h.named
    obtain ⟨tag, attributes, text, inside⟩ := e
    exact ⟨name, hname⟩
  notTree := h.notTree

theorem partDefects_of_group {p : TestElement} (htag : p.element.tag = "ThreadGroup") :
    partDefects p = groupDefect p.element.toNode [hashTree (ownedNodes p.owned)] := by
  simp [partDefects, groupDefectOf, htag]

theorem partDefects_of_sampler {p : TestElement} (htag : p.element.tag = "HTTPSamplerProxy") :
    partDefects p = samplerDefect p.element.toNode 0 := by
  simp [partDefects, groupDefectOf, htag]

theorem partDefects_of_assertion {p : TestElement} (htag : p.element.tag = "ResponseAssertion") :
    partDefects p = assertionDefect p.element.toNode 0 := by
  simp [partDefects, groupDefectOf, htag]

/-- Test elements that are no listeners do not end with one. -/
theorem endsWithListener_eq_false {ts : List TestElement} (h : "BackendListener" ∉ tagsOf ts) :
    endsWithListener (ownedNodes ts) = false := by
  rw [Bool.eq_false_iff, ne_eq, endsWithListener_iff]
  rintro ⟨before, listener, trees, hsplit, htag, -⟩
  have hmem : "BackendListener" ∈ (ownedNodes ts).map Node.tag := by
    rw [hsplit, ← htag]
    simp
  rw [map_tag_ownedNodes, List.mem_flatMap] at hmem
  obtain ⟨tag, hts, htag⟩ := hmem
  obtain rfl : "BackendListener" = tag := by simpa using htag
  exact h hts

theorem emptied_isProperty {e : Element} (h : e.IsProperty) : (emptied e).IsProperty := by
  unfold emptied
  split
  · obtain ⟨tagged, named, -, -, -⟩ := h
    exact .mk tagged named (by simp) (.inl rfl) (by simp)
  · exact h

theorem children_emptied {e : Element} (h : isTestStrings (emptied e).toNode = true) :
    (emptied e).toNode.children = [] := by
  have hsame : isTestStrings (emptied e).toNode = isTestStrings e.toNode := by
    obtain ⟨tag, attributes, text, properties⟩ := e
    unfold emptied
    split <;> rfl
  rw [children_toNode, emptied, if_pos (hsame ▸ h)]
  rfl

section Part

variable {p : TestElement} (hclean : p.IsClean)

include hclean

/-- A part that replaces another and owns some of the same has no defects but its own. -/
theorem hasOnly_of_subset {q : TestElement} (howned : partsOf q.owned ⊆ partsOf p.owned)
    (hq : q.element.IsNamed) {defect : Defect} (hdefect : partDefects q = [defect]) :
    HasOnly q q.element.tag defect := by
  obtain ⟨hnamed, hnone⟩ := hclean
  rw [p.parts_cons, List.forall_mem_cons] at hnamed hnone
  refine ⟨rfl, ?_, ?_⟩
  · rw [q.parts_cons, List.forall_mem_cons]
    exact ⟨hq, fun x hx => hnamed.2 x (howned hx)⟩
  · rw [q.parts_cons, List.flatMap_cons, hdefect,
      List.flatMap_eq_nil_iff.mpr fun x hx => hnone.2 x (howned hx), List.append_nil]

/-- A thread group that owned one listener is left with the defect that it does not end with one. -/
theorem withoutListener_hasOnly (htag : p.element.tag = "ThreadGroup")
    (honce : "BackendListener" ∉ tagsOf p.withoutListener.owned) :
    HasOnly p.withoutListener "ThreadGroup" (.noListener (calledAs p.element.toNode)) := by
  have howned : partsOf p.withoutListener.owned ⊆ partsOf p.owned := by
    intro x hx
    rw [partsOf_eq_flatMap] at hx ⊢
    obtain ⟨t, ht, hx⟩ := List.mem_flatMap.mp hx
    exact List.mem_flatMap.mpr ⟨t, List.mem_of_mem_eraseP ht, hx⟩
  have hdefect : partDefects p.withoutListener = [.noListener (calledAs p.element.toNode)] := by
    have hsame : p.withoutListener.element = p.element := rfl
    rw [partDefects_of_group (p := p.withoutListener) htag, groupDefect, children_hashTree,
      endsWithListener_eq_false honce, hsame, hclean.self.attribute?]
    rfl
  exact htag ▸ hasOnly_of_subset hclean howned hclean.self hdefect

theorem withoutMethod_hasOnly (htag : p.element.tag = "HTTPSamplerProxy") :
    HasOnly p.withoutMethod "HTTPSamplerProxy" (.noMethod (calledAs p.element.toNode)) := by
  have hself := hclean.self
  have hleft : p.withoutMethod.element.IsNamed :=
    hself.withProperties fun e he => hself.test.inside e (List.mem_of_mem_filter he)
  have hgone :
      property? p.withoutMethod.element.toNode "stringProp" "HTTPSampler.method" = none := by
    rw [property?, children_toNode, List.find?_eq_none]
    intro n hn
    obtain ⟨e, he, rfl⟩ := List.mem_map.mp hn
    have hkept : (!isMethod e.toNode) = true := (List.mem_filter.mp he).2
    rw [Bool.not_eq_true'] at hkept
    exact Bool.eq_false_iff.mp hkept
  have hdefect : partDefects p.withoutMethod = [.noMethod (calledAs p.element.toNode)] := by
    rw [partDefects_of_sampler (p := p.withoutMethod) htag, samplerDefect, propertyText, hgone,
      nameOf, hleft.attribute?, TestElement.withoutMethod, calledAs_properties]
    rfl
  exact htag ▸ hasOnly_of_subset (q := p.withoutMethod) hclean (List.Subset.refl _) hleft hdefect

theorem withoutTestStrings_hasOnly (htag : p.element.tag = "ResponseAssertion") :
    HasOnly p.withoutTestStrings "ResponseAssertion"
      (.noTestStrings (calledAs p.element.toNode)) := by
  have hself := hclean.self
  have hleft : p.withoutTestStrings.element.IsNamed := by
    refine hself.withProperties fun e he => ?_
    obtain ⟨property, hproperty, rfl⟩ := List.mem_map.mp he
    exact emptied_isProperty (hself.test.inside property hproperty)
  have hempty : ∀ strings, property? p.withoutTestStrings.element.toNode "collectionProp"
      "Asserion.test_strings" = some strings → strings.children = [] := by
    intro strings hfound
    have hmem := List.mem_of_find?_eq_some hfound
    rw [children_toNode] at hmem
    obtain ⟨e, he, rfl⟩ := List.mem_map.mp hmem
    obtain ⟨property, -, rfl⟩ := List.mem_map.mp he
    exact children_emptied (List.find?_some hfound)
  have hdefect : partDefects p.withoutTestStrings =
      [.noTestStrings (calledAs p.element.toNode)] := by
    have hname : nameOf "Assertion" p.withoutTestStrings.element.toNode 0 =
        calledAs p.element.toNode := by
      rw [nameOf, hleft.attribute?, TestElement.withoutTestStrings, calledAs_properties]
      rfl
    rw [partDefects_of_assertion (p := p.withoutTestStrings) htag, assertionDefect, hname]
    cases hfound : property? p.withoutTestStrings.element.toNode "collectionProp"
        "Asserion.test_strings" with
    | none => rfl
    | some strings => simp [hempty strings hfound]
  exact htag ▸ hasOnly_of_subset (q := p.withoutTestStrings) hclean (List.Subset.refl _) hleft
    hdefect

end Part

/-! ## Edits in a plan -/

/-- An edit that leaves each part with one defect is reported, wherever it is made. -/
theorem reports_of_change {d : Document} (hclean : d.IsClean) {wanted : String}
    (hwanted : wanted ∉ propertyTags) (htree : wanted ≠ "hashTree")
    {change : Node → List Node → List Node} {f : TestElement → TestElement}
    (hchange : Replaces wanted change f) {defect : String → Defect}
    (hpart : ∀ p ∈ partsOf d.elements, p.IsClean → p.element.tag = wanted →
      HasOnly (f p) wanted (defect (calledAs p.element.toNode)))
    {k : Nat} {found : Node} (hfound : (below d.toNode wanted)[k]? = some found) :
    ∃ name, found.attribute? "testname" = some name ∧
      Reports (d.toNode.changeBelow wanted change k) (defect name) := by
  obtain ⟨p, us, hswapped, htag, rfl, hus⟩ := changeBelow_toNode hwanted htree hchange
    (fun p hp => (hclean.named p hp).test) hfound
  have hparts : p.parts ⊆ partsOf d.elements := hswapped.subset_parts
  have hp : p.IsClean :=
    ⟨fun x hx => hclean.named x (hparts hx), fun x hx => hclean.partDefects_eq_nil x (hparts hx)⟩
  have honly := hpart p (hparts (by simp)) hp htag
  obtain ⟨hsound, hdefects⟩ := defects_of_swapped hclean hswapped (honly.tag.trans htag.symm)
    honly.named honly.defects
  exact ⟨_, hp.self.attribute?, hus ▸ reports_of_sound rfl hsound.toNode.1 hdefects⟩

end LoadPlan.Plan
