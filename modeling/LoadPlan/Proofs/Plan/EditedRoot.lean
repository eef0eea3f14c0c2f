import LoadPlan.Proofs.Plan.CompactReview
import LoadPlan.Proofs.Plan.Edits

/-!
# Edited roots

The root of a plan without defects with another value for one of the attributes it must have, or
without the test element in its main tree. Nothing below the root is looked up through either, so
each has one defect (`defects_withAttribute`, `reports_withoutTestPlan`).
-/

namespace LoadPlan.Plan

open Xml (Node isChar isPlainName AttributesSound)

/-! ## Setting an attribute -/

section Attributes

variable (attributes : List (String × String)) (value : String)

theorem setAttribute_cons_ne {a : String × String} {name : String} (h : a.1 ≠ name) :
    setAttribute (a :: attributes) name value = a :: setAttribute attributes name value := by
  unfold setAttribute
  rw [List.any_cons, beq_false_of_ne h, Bool.false_or]
  split <;> simp [h]

theorem find?_setAttribute_self (name : String) :
    (setAttribute attributes name value).find? (·.1 == name) = some (name, value) := by
  induction attributes with
  | nil => simp [setAttribute]
  | cons a attributes ih =>
    by_cases h : a.1 = name
    · simp [setAttribute, h]
    · rw [setAttribute_cons_ne attributes value h, List.find?_cons_of_neg (by simpa using h), ih]

theorem find?_setAttribute_ne {name other : String} (h : other ≠ name) :
    (setAttribute attributes name value).find? (·.1 == other) =
      attributes.find? (·.1 == other) := by
  unfold setAttribute
  split
  · clear * - h
    induction attributes with
    | nil => rfl
    | cons a attributes ih =>
      rw [List.map_cons, List.find?_cons, List.find?_cons, ih]
      by_cases hname : a.1 = name
      · simp [hname, beq_false_of_ne h.symm]
      · simp [hname]
  · simp [List.find?_append, h.symm]

end Attributes

/-- With an attribute set, attributes can still be written if the name and the value can. -/
theorem setAttribute_sound {attributes : List (String × String)} (h : AttributesSound attributes)
    {name value : String} (hname : isPlainName name.toList = true ∧ name ≠ "xmlns")
    (hvalue : ∀ c ∈ value.toList, isChar c = true) :
    AttributesSound (setAttribute attributes name value) := by
  unfold setAttribute
  split
  · have hnames : (attributes.map fun a => if a.1 == name then (name, value) else a).map Prod.fst =
        attributes.map Prod.fst := by
      rw [List.map_map]
      refine List.map_congr_left fun a _ => ?_
      by_cases ha : a.1 = name <;> simp [ha]
    refine ⟨hnames ▸ h.distinct, ?_, ?_⟩
    · rw [List.forall_mem_map]
      intro a ha
      split
      · exact hname
      · exact h.named a ha
    · rw [List.forall_mem_map]
      intro a ha
      split
      · exact hvalue
      · exact h.chars a ha
  · rename_i hnew
    have hdisjoint : ∀ a ∈ attributes, a.1 ≠ name :=
      fun a ha heq => hnew (List.any_eq_true.mpr ⟨a, ha, by simp [heq]⟩)
    refine ⟨?_, ?_, ?_⟩
    · rw [List.map_append, List.nodup_append]
      refine ⟨h.distinct, by simp, ?_⟩
      intro other hother
      obtain ⟨a, ha, rfl⟩ := List.mem_map.mp hother
      simpa using hdisjoint a ha
    · exact List.forall_mem_append.mpr ⟨h.named, List.forall_mem_singleton.mpr hname⟩
    · exact List.forall_mem_append.mpr ⟨h.chars, List.forall_mem_singleton.mpr hvalue⟩

section Root

variable {attributes : List (String × String)} {content : List Node}

theorem attribute?_withAttribute_self (tag name value : String) :
    (withAttribute (.element tag attributes content) name value).attribute? name = some value := by
  rw [withAttribute, Node.attribute?, Node.attributes, find?_setAttribute_self]
  rfl

theorem attribute?_withAttribute_ne (root : Node) {name other : String} (h : other ≠ name)
    (value : String) :
    (withAttribute root name value).attribute? other = root.attribute? other := by
  cases root with
  | text s => rfl
  | element tag attributes content =>
    rw [withAttribute, Node.attribute?, Node.attribute?, Node.attributes, Node.attributes,
      find?_setAttribute_ne attributes value h]

/-- What is found below a root, or has another tag, does not depend on its attributes. -/
theorem withTag_withAttribute (root : Node) {wanted : String} (h : root.tag ≠ wanted)
    (name value : String) :
    (withAttribute root name value).withTag wanted = root.withTag wanted := by
  cases root with
  | text s => rfl
  | element tag attributes content =>
    have hother : (tag == wanted) = false := beq_false_of_ne h
    rw [withAttribute, Node.withTag, Node.withTag, hother]
    rfl

/-- A root without defects has those of its attributes after one of them is set. -/
theorem defects_withAttribute_eq {root : Node} (h : defects root = []) (name value : String) :
    defects (withAttribute root name value) =
      attributeDefects (withAttribute root name value) := by
  obtain ⟨htag, -, hmain, hgroups, hsamplers, hassertions⟩ := (defects_eq_nil root).mp h
  have hsame : (withAttribute root name value).tag = root.tag := by cases root <;> rfl
  have hchild : mainTreeDefects (withAttribute root name value) = mainTreeDefects root := by
    cases root <;> rfl
  have hother {wanted : String} (hne : "jmeterTestPlan" ≠ wanted) :=
    withTag_withAttribute root (htag ▸ hne) name value
  rw [defects, hsame, htag, hother (by decide), hother (by decide), hother (by decide), hchild,
    hmain, List.flatMap_eq_nil_iff.mpr hgroups,
    (indexed_eq_nil samplerDefect_eq_nil _).mpr hsamplers,
    (indexed_eq_nil assertionDefect_eq_nil _).mpr hassertions]
  simp

/-- Another value of an attribute that the root must have is the one defect. -/
theorem defects_withAttribute {root : Node} (h : defects root = []) {name expected : String}
    (hmust : (name, expected) ∈ rootAttributes) {value : String} (hvalue : value ≠ expected) :
    defects (withAttribute root name value) = [.rootAttribute name expected (some value)] := by
  obtain ⟨htag, hattributes, -⟩ := (defects_eq_nil root).mp h
  obtain ⟨hversion, hproperties, hjmeter⟩ := (attributeDefects_eq_nil root).mp hattributes
  have hself : (withAttribute root name value).attribute? name = some value := by
    cases root with
    | text s => exact absurd htag (by simp [Node.tag])
    | element tag attributes content => exact attribute?_withAttribute_self tag name value
  have hother {other : String} (hne : other ≠ name) :=
    attribute?_withAttribute_ne root hne value
  rw [defects_withAttribute_eq h, attributeDefects]
  simp only [rootAttributes, List.mem_cons, Prod.mk.injEq, List.not_mem_nil, or_false] at hmust
  obtain ⟨rfl, rfl⟩ | ⟨rfl, rfl⟩ := hmust
  · simp [rootAttributes, hself, hvalue, hother, hproperties, hjmeter]
  · simp [rootAttributes, hself, hvalue, hother, hversion, hjmeter]

end Root

theorem reports_withAttribute {d : Document} (hclean : d.IsClean) {name expected value : String}
    (hmust : (name, expected) ∈ rootAttributes) (hvalue : value ≠ expected)
    (hchars : ∀ c ∈ value.toList, isChar c = true) :
    Reports (withAttribute d.toNode name value) (.rootAttribute name expected (some value)) := by
  have hnames : ∀ a ∈ rootAttributes, isPlainName a.1.toList = true ∧ a.1 ≠ "xmlns" := by
    decide +kernel
  have hsound : Document.Sound ⟨setAttribute d.attributes name value, d.elements⟩ :=
    ⟨setAttribute_sound hclean.sound.named (hnames _ hmust) hchars, hclean.sound.inside⟩
  exact reports_of_sound rfl hsound.toNode.1 (defects_withAttribute hclean.defects hmust hvalue)

/-! ## The test element -/

section Bare

variable (attributes : List (String × String)) (ns : List Node)

/-- A root whose main tree holds one tree has only the main tree besides what is in that one. -/
theorem hashTrees_bareRoot :
    (Node.element "jmeterTestPlan" attributes [hashTree [hashTree ns]]).withTag "hashTree" =
      hashTree [hashTree ns] :: (hashTree ns).withTag "hashTree" := by
  rw [Node.withTag, Node.withTagIn, Node.withTagIn, withTag_hashTree, Node.withTagIn,
    Node.withTagIn]
  simp

theorem withTag_bareRoot {wanted : String} (hroot : "jmeterTestPlan" ≠ wanted)
    (htree : wanted ≠ "hashTree") :
    (Node.element "jmeterTestPlan" attributes [hashTree [hashTree ns]]).withTag wanted =
      (hashTree ns).withTag wanted := by
  rw [Node.withTag, beq_false_of_ne hroot, Node.withTagIn, Node.withTagIn,
    withTag_hashTree_of_ne htree, Node.withTagIn, Node.withTagIn]
  simp

end Bare

section TestPlan

variable {d : Document} {plan : TestElement} (helements : d.elements = [plan])

include helements

/-- What is found behind the test element is found in the plan. -/
theorem mem_withTag_groups (wanted : String) :
    ∀ n ∈ (hashTree (ownedNodes plan.owned)).withTag wanted, n ∈ d.toNode.withTag wanted := by
  obtain ⟨element, owned⟩ := plan
  intro n hn
  have hmain : n ∈ Node.withTagIn wanted (ownedNodes [⟨element, owned⟩]) := by
    rw [ownedNodes, TestElement.toNodes, Node.withTagIn_eq_flatMap]
    exact List.mem_flatMap.mpr ⟨_, by simp, hn⟩
  have hroot : d.toNode.isElement = true := rfl
  have hchildren : d.toNode.children = [hashTree (ownedNodes [⟨element, owned⟩])] := by
    rw [Document.toNode, helements]
    rfl
  rw [Node.withTag_eq wanted hroot, hchildren, Node.withTagIn, Node.withTagIn, withTag_hashTree]
  simp [hmain]

variable (htag : plan.element.tag = "TestPlan")

include htag

/-- Without the test element the main tree holds the tree of the thread groups alone. -/
theorem withoutTestPlan_toNode : withoutTestPlan d.toNode =
    .element "jmeterTestPlan" d.attributes [hashTree [hashTree (ownedNodes plan.owned)]] := by
  obtain ⟨element, owned⟩ := plan
  have hnodes : ownedNodes [⟨element, owned⟩] =
      [element.toNode, hashTree (ownedNodes owned)] := rfl
  have htag : element.tag = "TestPlan" := htag
  have hmain : (hashTree (ownedNodes [⟨element, owned⟩])).mapContent
      (·.filter (·.tag != "TestPlan")) = hashTree [hashTree (ownedNodes owned)] := by
    rw [hnodes, hashTree, Node.mapContent, List.filter_cons_of_neg (by simp [htag])]
    rfl
  rw [Document.toNode, helements, withoutTestPlan, Node.mapContent, List.modifyHead_cons, hmain]

variable (hclean : d.IsClean)

include hclean

theorem withoutTestPlan_sound : (withoutTestPlan d.toNode).Sound := by
  have hgroups : (hashTree (ownedNodes plan.owned)).Sound := by
    obtain ⟨-, hinside⟩ := hclean.sound.inside plan (by simp [helements])
    exact (hashTree_sound fun t ht => (hinside t ht).nodes).1
  have hnone : AttributesSound [] := ⟨List.nodup_nil, by simp, by simp⟩
  rw [withoutTestPlan_toNode helements htag]
  exact ⟨rfl, hclean.sound.named, ⟨rfl, hnone, hgroups, .inl rfl, trivial⟩, .inl rfl, trivial⟩

/-- Without the test element a plan has the one defect that it is missing. -/
theorem reports_withoutTestPlan : Reports (withoutTestPlan d.toNode) .noTestPlan := by
  have hsound := withoutTestPlan_sound helements htag hclean
  have hfound {wanted : String} := mem_withTag_groups helements wanted
  obtain ⟨-, hattributes, -, hgroups, hsamplers, hassertions⟩ :=
    (defects_eq_nil d.toNode).mp hclean.defects
  rw [withoutTestPlan_toNode helements htag] at hsound ⊢
  refine reports_of_sound rfl hsound ?_
  have hnoGroups : ((hashTree (ownedNodes plan.owned)).withTag "hashTree").flatMap
      (fun tree => groupDefects tree.children) = [] :=
    List.flatMap_eq_nil_iff.mpr fun tree htree => hgroups tree (hfound tree htree)
  have hnoSamplers : indexed samplerDefect
      ((hashTree (ownedNodes plan.owned)).withTag "HTTPSamplerProxy") = [] :=
    (indexed_eq_nil samplerDefect_eq_nil _).mpr fun n hn => hsamplers n (hfound n hn)
  have hnoAssertions : indexed assertionDefect
      ((hashTree (ownedNodes plan.owned)).withTag "ResponseAssertion") = [] :=
    (indexed_eq_nil assertionDefect_eq_nil _).mpr fun n hn => hassertions n (hfound n hn)
  have hsame : attributeDefects (.element "jmeterTestPlan" d.attributes
      [hashTree [hashTree (ownedNodes plan.owned)]]) = attributeDefects d.toNode := rfl
  rw [defects, hashTrees_bareRoot, withTag_bareRoot _ _ (by decide) (by decide),
    withTag_bareRoot _ _ (by decide) (by decide), hsame, hattributes, List.flatMap_cons, hnoGroups,
    hnoSamplers, hnoAssertions]
  rfl

end TestPlan

end LoadPlan.Plan
