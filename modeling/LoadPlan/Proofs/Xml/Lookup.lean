import LoadPlan.Proofs.Xml.Normal

/-!
# Lookups in trees that were read

Reading a tree changes its values and the white space between its elements, but a lookup does not
see this: tags, the elements that an element holds and the elements below it that have a tag are
the same, and so are values without blanks (`Keeps`).
-/

namespace LoadPlan.Xml

open Text (unifyLineEnds)

namespace Node

theorem withTagIn_eq_flatMap (wanted : String) (ns : List Node) :
    withTagIn wanted ns = ns.flatMap (withTag wanted) := by
  induction ns with
  | nil => rfl
  | cons n ns ih => simp [withTagIn, ih]

theorem withTag_of_not_isElement (wanted : String) {n : Node} (h : n.isElement = false) :
    n.withTag wanted = [] := by
  cases n with
  | text s => rw [withTag]
  | element => simp [isElement] at h

theorem withTagIn_filter (wanted : String) (ns : List Node) :
    withTagIn wanted (ns.filter isElement) = withTagIn wanted ns := by
  induction ns with
  | nil => rfl
  | cons n ns ih =>
    by_cases h : n.isElement = true
    · rw [List.filter_cons_of_pos h, withTagIn, withTagIn, ih]
    · rw [List.filter_cons_of_neg h, ih, withTagIn,
        withTag_of_not_isElement wanted (by simpa using h), List.nil_append]

/-- The elements with a tag: the element itself, and those of the elements it holds. -/
theorem withTag_eq (wanted : String) {n : Node} (h : n.isElement = true) :
    n.withTag wanted = (if n.tag == wanted then [n] else []) ++ withTagIn wanted n.children := by
  cases n with
  | text s => simp [isElement] at h
  | element tag attributes content =>
    rw [withTag, children, Node.content, withTagIn_filter, Node.tag]
    split <;> simp

theorem sizeOf_lt_of_mem_children {n m : Node} (h : m ∈ n.children) : sizeOf m < sizeOf n := by
  cases n with
  | text s => simp [children, content] at h
  | element tag attributes content =>
    have hlt := List.sizeOf_lt_of_mem (List.mem_of_mem_filter h)
    simp [Node.content] at hlt ⊢
    omega

end Node

/-- A change of trees that lookups do not see, with what it does to values of attributes. -/
structure Keeps (f : Node → Node) (g : String → String) : Prop where
  tag : ∀ n, (f n).tag = n.tag
  isElement : ∀ n, (f n).isElement = n.isElement
  lookup : ∀ n name, (f n).attribute? name = (n.attribute? name).map g
  children : ∀ n, (f n).children = n.children.map f
  text : ∀ n, n.children = [] → ((f n).ownText = "" ↔ n.ownText = "")
  value : ∀ s t, (∀ c ∈ t.toList, isSpace c = false) → (g s = t ↔ s = t)

section Keeps

variable {f : Node → Node} {g : String → String} (hk : Keeps f g)

include hk

theorem Keeps.withTag (wanted : String) (n : Node) :
    (f n).withTag wanted = (n.withTag wanted).map f := by
  by_cases h : n.isElement = true
  · have hbelow : ∀ m ∈ n.children, (f m).withTag wanted = (m.withTag wanted).map f :=
      fun m hm => Keeps.withTag wanted m
    rw [Node.withTag_eq wanted h, Node.withTag_eq wanted (by rw [hk.isElement, h]), hk.tag,
      hk.children, Node.withTagIn_eq_flatMap, Node.withTagIn_eq_flatMap, List.map_append,
      List.flatMap_map, List.map_flatMap, List.flatMap_congr hbelow]
    split <;> rfl
  · have h' : n.isElement = false := by simpa using h
    rw [Node.withTag_of_not_isElement wanted h',
      Node.withTag_of_not_isElement wanted (by rw [hk.isElement, h']), List.map_nil]
termination_by n
decreasing_by exact Node.sizeOf_lt_of_mem_children hm

end Keeps

/-! ## Spaces for blanks -/

theorem blanksAsSpaces_of_not_space {cs : List Char} (h : ∀ c ∈ cs, isSpace c = false) :
    blanksAsSpaces cs = cs := by
  fun_induction blanksAsSpaces cs with
  | case1 => rfl
  | case2 rest => simpa [isSpace] using h '\r' (by simp)
  | case3 c rest hnot ih =>
    rw [ih fun d hd => h d (List.mem_cons_of_mem c hd), if_neg]
    simp [h c List.mem_cons_self]

theorem blanksAsSpaces_space (cs : List Char) (h : ∃ c ∈ cs, isSpace c = true) :
    ∃ c ∈ blanksAsSpaces cs, isSpace c = true := by
  fun_induction blanksAsSpaces cs with
  | case1 => simp at h
  | case2 rest => exact ⟨' ', by simp, rfl⟩
  | case3 c rest hnot ih =>
    by_cases hc : isSpace c = true
    · exact ⟨' ', by simp [hc], rfl⟩
    · obtain ⟨d, hd, hspace⟩ := h
      obtain rfl | hd := List.mem_cons.mp hd
      · exact absurd hspace hc
      · obtain ⟨e, he, hspace⟩ := ih ⟨d, hd, hspace⟩
        exact ⟨e, by simp [he], hspace⟩

/-- A value is read as a text without blanks if it is that text. -/
theorem blanksAsSpaces_eq_iff (cs : List Char) {ds : List Char}
    (h : ∀ c ∈ ds, isSpace c = false) : blanksAsSpaces cs = ds ↔ cs = ds := by
  constructor
  · rintro rfl
    by_contra hne
    have hspace : ∃ c ∈ cs, isSpace c = true := by
      by_contra hnone
      exact hne (blanksAsSpaces_of_not_space (by simpa using hnone)).symm
    obtain ⟨c, hc, hspace⟩ := blanksAsSpaces_space cs hspace
    rw [h c hc] at hspace
    cases hspace
  · rintro rfl
    exact blanksAsSpaces_of_not_space h

/-! ## Reading -/

@[simp]
theorem asReadAll_eq_map (ns : List Node) : asReadAll ns = ns.map Node.asRead := by
  induction ns with
  | nil => rfl
  | cons n ns ih => simp [asReadAll, ih]

@[simp]
theorem Node.asRead_isElement (n : Node) : n.asRead.isElement = n.isElement := by
  cases n <;> rfl

theorem leadingText_asReadAll (ns : List Node) :
    Node.leadingText (asReadAll ns) = "" ↔ Node.leadingText ns = "" := by
  induction ns with
  | nil => simp [asReadAll]
  | cons n ns ih =>
    cases n with
    | element => simp [asReadAll, Node.asRead, Node.leadingText]
    | text s =>
      have hs : unifyLineEnds s.toList = [] ↔ s.toList = [] :=
        ⟨fun h => by_contra fun hne => unifyLineEnds_ne_nil hne h, fun h => by rw [h]; rfl⟩
      simpa [asReadAll, Node.asRead, Node.leadingText, hs] using fun _ => ih

theorem asRead_keeps :
    Keeps Node.asRead fun s => String.ofList (blanksAsSpaces s.toList) where
  tag n := by cases n <;> rfl
  isElement := Node.asRead_isElement
  lookup n name := by
    cases n with
    | text => rfl
    | element tag attributes content =>
      simp [Node.asRead, Node.attribute?, Node.attributes, List.find?_map, Function.comp_def]
  children n := by
    cases n with
    | text => rfl
    | element tag attributes content =>
      simp [Node.asRead, Node.children, Node.content, List.filter_map, Function.comp_def]
  text n _ := by
    cases n with
    | text => rfl
    | element tag attributes content => exact leadingText_asReadAll content
  value s t h := by
    rw [← String.toList_inj, String.toList_ofList, blanksAsSpaces_eq_iff _ h, String.toList_inj]

/-! ## Dropping layout -/

@[simp]
theorem Node.dropLayout_isElement (n : Node) : n.dropLayout.isElement = n.isElement := by
  cases n <;> rfl

@[simp]
theorem Node.children_dropLayout (n : Node) :
    n.dropLayout.children = n.children.map Node.dropLayout := by
  cases n with
  | text => rfl
  | element tag attributes content =>
    rw [dropLayout, children, Node.content, children, Node.content]
    by_cases h : content.any isElement = true
    · have hblank : ∀ m : Node, (m.isElement && !m.isBlank) = m.isElement := by
        intro m
        cases m <;> simp [isElement, isBlank]
      rw [if_pos h, dropBlanks_eq_map, List.filter_map, List.filter_filter]
      congr 1
      exact List.filter_congr fun m _ => by simp [hblank]
    · have hnone : content.filter isElement = [] := by simpa using h
      rw [if_neg h, hnone]
      rfl

theorem dropLayout_keeps : Keeps Node.dropLayout id where
  tag n := by cases n <;> rfl
  isElement := Node.dropLayout_isElement
  lookup n name := by
    rw [Option.map_id]
    cases n <;> rfl
  children := Node.children_dropLayout
  text n h := by
    cases n with
    | text => rfl
    | element tag attributes content =>
      have hnone : ¬ content.any Node.isElement = true := by
        simpa [Node.children, Node.content] using h
      rw [Node.dropLayout, if_neg hnone]
  value s t _ := Iff.rfl

end LoadPlan.Xml
