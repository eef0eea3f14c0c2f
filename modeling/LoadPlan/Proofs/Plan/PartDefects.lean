import LoadPlan.Proofs.Plan.Review

/-!
# Defects part by part

A review goes over a plan four times: over its root, its thread groups, its samplers and its
assertions. Each of the last three looks at one test element at a time, so the defects of a plan are
those of its root and those of its parts, in some order (`defects_perm`). The defects of a part
depend on its element and on the tags of what it owns only, so after a part of a plan without
defects is replaced by another with the same tag, the plan has the defects of the new one
(`defects_of_swapped`).
-/

namespace LoadPlan.Plan

open Xml (Node)

/-! ## Parts -/

/-- An element of a part: it can be written, has a name and is no tree. -/
structure Element.IsNamed (e : Element) : Prop where
  test : e.IsTest
  named : ∃ name, e.toNode.attribute? "testname" = some name
  notTree : e.tag ≠ "hashTree"

/-- Test elements can be written if all their parts can. -/
theorem sound_of_parts (ts : List TestElement) (h : ∀ p ∈ partsOf ts, p.element.IsTest) :
    ∀ t ∈ ts, t.Sound := by
  match ts with
  | [] => exact fun _ ht => nomatch ht
  | ⟨element, owned⟩ :: rest =>
    rw [partsOf, TestElement.parts, List.cons_append, List.forall_mem_cons,
      List.forall_mem_append] at h
    obtain ⟨htest, howned, hrest⟩ := h
    exact List.forall_mem_cons.mpr
      ⟨.mk htest (sound_of_parts owned howned), sound_of_parts rest hrest⟩

/-- Each part is there by itself or owned by another. -/
theorem perm_partsOf (ts : List TestElement) :
    (partsOf ts).Perm (ts ++ (partsOf ts).flatMap (·.owned)) := by
  match ts with
  | [] => exact .nil
  | ⟨element, owned⟩ :: rest =>
    have howned := perm_partsOf owned
    have hrest := perm_partsOf rest
    rw [partsOf, TestElement.parts, List.cons_append, List.cons_append, List.flatMap_cons,
      List.flatMap_append, ← List.append_assoc owned]
    -- Both sides begin with the first part; of the rest, only the order differs.
    exact ((howned.append hrest).trans (List.perm_append_comm_assoc _ _ _)).cons _

/-! ## Defects of a part -/

/-- The defect of a thread group with the tree of what it owns behind it. -/
def groupDefectOf (p : TestElement) : List Defect :=
  if p.element.tag == "ThreadGroup" then
    groupDefect p.element.toNode [hashTree (ownedNodes p.owned)]
  else []

/-- The defects of a part. -/
def partDefects (p : TestElement) : List Defect :=
  groupDefectOf p ++
    ((if p.element.tag == "HTTPSamplerProxy" then samplerDefect p.element.toNode 0 else []) ++
      if p.element.tag == "ResponseAssertion" then assertionDefect p.element.toNode 0 else [])

/-- Only the tree right behind a thread group counts. -/
theorem groupDefect_cons (n tree : Node) (rest : List Node) :
    groupDefect n (tree :: rest) = groupDefect n [tree] :=
  rfl

theorem groupDefects_eq_flatMap (ts : List TestElement) :
    groupDefects (ownedNodes ts) = ts.flatMap groupDefectOf := by
  induction ts with
  | nil => rfl
  | cons t ts ih =>
    obtain ⟨element, owned⟩ := t
    have htree : ((hashTree (ownedNodes owned)).tag == "ThreadGroup") = false := rfl
    rw [ownedNodes, TestElement.toNodes, List.cons_append, List.cons_append, List.nil_append,
      groupDefects, groupDefects, ih, toNode_tag, htree, groupDefect_cons, List.flatMap_cons]
    rfl

theorem nameOf_of_named {n : Node} (h : ∃ name, n.attribute? "testname" = some name)
    (what : String) (index other : Nat) : nameOf what n index = nameOf what n other := by
  obtain ⟨name, hname⟩ := h
  rw [nameOf, nameOf, hname]
  rfl

/-- What is found in the elements with a tag, part by part. -/
theorem indexed_parts {f : Node → Nat → List Defect} {ps : List TestElement} {tag : String}
    (h : ∀ p ∈ ps, ∀ i, f p.element.toNode i = f p.element.toNode 0) :
    indexed f ((ps.filter (·.element.tag == tag)).map (·.element.toNode)) =
      ps.flatMap fun p => if p.element.tag == tag then f p.element.toNode 0 else [] := by
  have hindex : ∀ n ∈ (ps.filter (·.element.tag == tag)).map (·.element.toNode), ∀ i,
      f n i = f n 0 := by
    intro n hn i
    obtain ⟨p, hp, rfl⟩ := List.mem_map.mp hn
    exact h p (List.mem_of_mem_filter hp) i
  rw [indexed_eq_flatMap hindex, List.flatMap_map]
  clear h hindex
  induction ps with
  | nil => rfl
  | cons p ps ih =>
    rw [List.filter_cons, List.flatMap_cons, ← ih]
    split <;> simp

section Document

variable {d : Document} (hsound : d.Sound) (hparts : ∀ p ∈ partsOf d.elements, p.element.IsNamed)

include hsound hparts

/-- The thread groups with defects are found in one tree or another. -/
theorem groupDefects_perm :
    ((d.toNode.withTag "hashTree").flatMap fun tree => groupDefects tree.children).Perm
      ((partsOf d.elements).flatMap groupDefectOf) := by
  rw [hsound.hashTrees_eq fun p hp => (hparts p hp).notTree, List.flatMap_cons, List.flatMap_map]
  simp only [children_hashTree, groupDefects_eq_flatMap]
  rw [← List.flatMap_assoc, ← List.flatMap_append]
  exact ((perm_partsOf d.elements).flatMap_right groupDefectOf).symm

/-- The defects of a plan are those of its root and those of its parts. -/
theorem defects_perm : (defects d.toNode).Perm
    (attributeDefects d.toNode ++ mainTreeDefects d.toNode ++
      (partsOf d.elements).flatMap partDefects) := by
  have hsamplers : indexed samplerDefect (d.toNode.withTag "HTTPSamplerProxy") =
      (partsOf d.elements).flatMap fun p =>
        if p.element.tag == "HTTPSamplerProxy" then samplerDefect p.element.toNode 0 else [] := by
    rw [hsound.withTag_eq (by decide) (by decide) (by decide)]
    refine indexed_parts fun p hp i => ?_
    rw [samplerDefect, samplerDefect, nameOf_of_named (hparts p hp).named "Sampler" i 0]
  have hassertions : indexed assertionDefect (d.toNode.withTag "ResponseAssertion") =
      (partsOf d.elements).flatMap fun p => if p.element.tag == "ResponseAssertion" then
        assertionDefect p.element.toNode 0 else [] := by
    rw [hsound.withTag_eq (by decide) (by decide) (by decide)]
    refine indexed_parts fun p hp i => ?_
    rw [assertionDefect, assertionDefect, nameOf_of_named (hparts p hp).named "Assertion" i 0]
  have htag : (d.toNode.tag != "jmeterTestPlan") = false := rfl
  rw [defects, htag, hsamplers, hassertions]
  simp only [Bool.false_eq_true, if_false, List.append_assoc]
  refine ((List.Perm.trans ?_ (List.flatMap_append_perm _ _ _)).append_left _).append_left _
  exact (groupDefects_perm hsound hparts).append (List.flatMap_append_perm _ _ _)

end Document

/-! ## Rows with the same tags -/

/-- The tags of test elements in a row. -/
def tagsOf (ts : List TestElement) : List String :=
  ts.map (·.element.tag)

theorem map_tag_ownedNodes (ts : List TestElement) :
    (ownedNodes ts).map Node.tag = (tagsOf ts).flatMap fun tag => [tag, "hashTree"] := by
  induction ts with
  | nil => rfl
  | cons t ts ih =>
    obtain ⟨element, owned⟩ := t
    have htree : (hashTree (ownedNodes owned)).tag = "hashTree" := rfl
    rw [ownedNodes, TestElement.toNodes, List.map_append, ih]
    simp [tagsOf, htree]

theorem endsWithListener_eq (ns : List Node) :
    endsWithListener ns =
      (((ns.map Node.tag).filter (· != "hashTree")).getLast?.map (· == "BackendListener")).getD
        false := by
  have htag : (· != "hashTree") ∘ Node.tag = fun n => n.tag != "hashTree" := rfl
  rw [endsWithListener, List.filter_map, List.getLast?_map, htag]
  cases (ns.filter (·.tag != "hashTree")).getLast? <;> rfl

variable {ts us : List TestElement} {p q : TestElement}

theorem endsWithListener_of_tags (h : tagsOf us = tagsOf ts) :
    endsWithListener (ownedNodes us) = endsWithListener (ownedNodes ts) := by
  rw [endsWithListener_eq, endsWithListener_eq, map_tag_ownedNodes, map_tag_ownedNodes, h]

/-- What a part has for defects does not depend on what it owns, tags apart. -/
theorem partDefects_of_tags (element : Element) (h : tagsOf us = tagsOf ts) :
    partDefects ⟨element, us⟩ = partDefects ⟨element, ts⟩ := by
  have hgroup : groupDefectOf ⟨element, us⟩ = groupDefectOf ⟨element, ts⟩ := by
    rw [groupDefectOf, groupDefectOf, groupDefect, groupDefect, children_hashTree,
      children_hashTree, endsWithListener_of_tags h]
    rfl
  rw [partDefects, partDefects, hgroup]

theorem mainTreeDefects_of_tags (attributes : List (String × String)) (h : tagsOf us = tagsOf ts) :
    mainTreeDefects (Document.toNode ⟨attributes, us⟩) =
      mainTreeDefects (Document.toNode ⟨attributes, ts⟩) := by
  have hfound (vs : List TestElement) : (child? (hashTree (ownedNodes vs)) "TestPlan").isNone =
      ((ownedNodes vs).map Node.tag).all (· != "TestPlan") := by
    rw [child?, children_hashTree, Bool.eq_iff_iff]
    simp
  have htree (vs : List TestElement) : child? (Document.toNode ⟨attributes, vs⟩) "hashTree" =
      some (hashTree (ownedNodes vs)) := rfl
  rw [mainTreeDefects, mainTreeDefects, htree, htree]
  dsimp only
  rw [hfound, hfound, map_tag_ownedNodes, map_tag_ownedNodes, h]

/-! ## Replacing a part -/

/-- Test elements before and after one of their parts is replaced by another. -/
inductive Swapped (p q : TestElement) : List TestElement → List TestElement → Prop
  | here (rest : List TestElement) : Swapped p q (p :: rest) (q :: rest)
  | inside {owned owned' : List TestElement} (element : Element) (rest : List TestElement)
      (h : Swapped p q owned owned') :
      Swapped p q (⟨element, owned⟩ :: rest) (⟨element, owned'⟩ :: rest)
  | later {ts us : List TestElement} (t : TestElement) (h : Swapped p q ts us) :
      Swapped p q (t :: ts) (t :: us)

namespace Swapped

variable (h : Swapped p q ts us)

include h

theorem subset_parts : p.parts ⊆ partsOf ts := by
  induction h with
  | here rest => exact List.subset_append_left _ _
  | inside element rest _ ih =>
    rw [partsOf, TestElement.parts, List.cons_append]
    exact List.subset_cons_of_subset _ (List.subset_append_of_subset_left _ ih)
  | later t _ ih => exact List.subset_append_of_subset_right _ ih

/-- What holds of all elements before, and of those of the new part, holds of all after. -/
theorem forall_elements {P : Element → Prop} (hbefore : ∀ x ∈ partsOf ts, P x.element)
    (hnew : ∀ x ∈ q.parts, P x.element) : ∀ x ∈ partsOf us, P x.element := by
  induction h with
  | here rest =>
    rw [partsOf, List.forall_mem_append] at hbefore ⊢
    exact ⟨hnew, hbefore.2⟩
  | inside element rest _ ih =>
    rw [partsOf, TestElement.parts, List.cons_append, List.forall_mem_cons,
      List.forall_mem_append] at hbefore ⊢
    exact ⟨hbefore.1, ih hbefore.2.1, hbefore.2.2⟩
  | later t _ ih =>
    rw [partsOf, List.forall_mem_append] at hbefore ⊢
    exact ⟨hbefore.1, ih hbefore.2⟩

section SameTag

variable (htag : q.element.tag = p.element.tag)

include htag

theorem tagsOf_eq : tagsOf us = tagsOf ts := by
  induction h with
  | here rest => rw [tagsOf, tagsOf, List.map_cons, List.map_cons, htag]
  | inside element rest _ _ => rfl
  | later t _ ih => exact congrArg (t.element.tag :: ·) ih

/-- Around the part that is replaced the defects stay. -/
theorem partDefects_around : ∃ before after,
    (partsOf ts).flatMap partDefects = before ++ p.parts.flatMap partDefects ++ after ∧
      (partsOf us).flatMap partDefects = before ++ q.parts.flatMap partDefects ++ after := by
  induction h with
  | here rest =>
    exact ⟨[], (partsOf rest).flatMap partDefects, List.flatMap_append, List.flatMap_append⟩
  | @inside owned owned' element rest hinside ih =>
    obtain ⟨before, after, hts, hus⟩ := ih
    -- The owner sees only the tags of what it owns, which are the same.
    have howner : partDefects ⟨element, owned'⟩ = partDefects ⟨element, owned⟩ :=
      partDefects_of_tags element (hinside.tagsOf_eq htag)
    refine ⟨partDefects ⟨element, owned⟩ ++ before,
      after ++ (partsOf rest).flatMap partDefects, ?_, ?_⟩
    · simp only [partsOf, TestElement.parts, List.cons_append, List.flatMap_cons,
        List.flatMap_append, hts, List.append_assoc]
    · simp only [partsOf, TestElement.parts, List.cons_append, List.flatMap_cons,
        List.flatMap_append, hus, howner, List.append_assoc]
  | later t _ ih =>
    obtain ⟨before, after, hts, hus⟩ := ih
    refine ⟨t.parts.flatMap partDefects ++ before, after, ?_, ?_⟩
    · simp only [partsOf, List.flatMap_append, hts, List.append_assoc]
    · simp only [partsOf, List.flatMap_append, hus, List.append_assoc]

end SameTag

end Swapped

/-- A plan of named parts without defects. -/
structure Document.IsClean (d : Document) : Prop where
  sound : d.Sound
  named : ∀ p ∈ partsOf d.elements, p.element.IsNamed
  defects : defects d.toNode = []

section Clean

variable {attributes : List (String × String)} (hclean : Document.IsClean ⟨attributes, ts⟩)

include hclean

theorem Document.IsClean.partDefects_eq_nil : ∀ x ∈ partsOf ts, partDefects x = [] := by
  have hperm := defects_perm hclean.sound hclean.named
  rw [hclean.defects, List.nil_perm, List.append_eq_nil_iff, List.flatMap_eq_nil_iff] at hperm
  exact hperm.2

/-- After a part of a plan without defects is replaced by one with the same tag, the plan can still
be written, and has the defects of the new part. -/
theorem defects_of_swapped (hswapped : Swapped p q ts us) (htag : q.element.tag = p.element.tag)
    (hnamed : ∀ x ∈ q.parts, x.element.IsNamed) {defect : Defect}
    (hdefect : q.parts.flatMap partDefects = [defect]) :
    Document.Sound ⟨attributes, us⟩ ∧ defects (Document.toNode ⟨attributes, us⟩) = [defect] := by
  have hparts : ∀ x ∈ partsOf us, x.element.IsNamed :=
    hswapped.forall_elements hclean.named hnamed
  have hsound : Document.Sound ⟨attributes, us⟩ :=
    ⟨hclean.sound.named, sound_of_parts us fun x hx => (hparts x hx).test⟩
  refine ⟨hsound, ?_⟩
  have hperm := defects_perm hclean.sound hclean.named
  rw [hclean.defects, List.nil_perm, List.append_eq_nil_iff, List.append_eq_nil_iff] at hperm
  obtain ⟨⟨hattributes, hmain⟩, hnone⟩ := hperm
  obtain ⟨before, after, hts, hus⟩ := hswapped.partDefects_around htag
  dsimp only at hnone
  rw [hts, List.append_eq_nil_iff, List.append_eq_nil_iff] at hnone
  obtain ⟨⟨rfl, -⟩, rfl⟩ := hnone
  have hedited := defects_perm hsound hparts
  have hsame : attributeDefects (Document.toNode ⟨attributes, us⟩) =
      attributeDefects (Document.toNode ⟨attributes, ts⟩) := rfl
  rw [hsame, hattributes, mainTreeDefects_of_tags attributes (hswapped.tagsOf_eq htag), hmain]
    at hedited
  dsimp only at hedited
  rw [hus, hdefect] at hedited
  exact List.perm_singleton.mp hedited

end Clean

end LoadPlan.Plan
