import LoadPlan.Plan.Parts
import LoadPlan.Proofs.Xml.Document

/-!
# Elements of plans can be written

Whatever values a plan is made from, its tree is sound and tidy: names are fixed, texts hold only
characters of documents, and no element has a text beside its properties. So a plan that was
rendered is read back as its tree (`Document.read_render`).
-/

namespace LoadPlan.Plan

open Xml (Node isChar isPlainName AttributesSound SoundAll TidyAll)

/-! ## Values -/

theorem isChar_of_planText? {v : Value} {s : String} (h : v.planText? = some s) :
    ∀ c ∈ s.toList, isChar c = true := by
  unfold Value.planText? at h
  split at h
  · simp at h
  · obtain rfl := Option.some.inj h
    split <;> simp [isChar]
  · obtain rfl := Option.some.inj h
    simp

/-- The text of a value where there must be one. -/
def planText (v : Value) : String :=
  v.planText?.getD ""

theorem isChar_of_planText (v : Value) : ∀ c ∈ (planText v).toList, isChar c = true := by
  unfold planText
  cases h : v.planText? with
  | none => simp
  | some s => exact isChar_of_planText? h

/-! ## Attributes -/

theorem setAttribute_of_new {attributes : List (String × String)} {name : String}
    (h : name ∉ attributes.map Prod.fst) (value : String) :
    setAttribute attributes name value = attributes ++ [(name, value)] := by
  rw [setAttribute, if_neg]
  simpa using h

theorem foldl_setAttribute {attributes : List (String × Value)} {done : List (String × String)}
    (h : (done.map Prod.fst ++ attributes.map Prod.fst).Nodup) :
    attributes.foldl (fun done a => setAttribute done a.1 (a.2.planText?.getD "")) done =
      done ++ attributes.map fun a => (a.1, planText a.2) := by
  induction attributes generalizing done with
  | nil => simp
  | cons a attributes ih =>
    rw [List.map_cons, List.nodup_append] at h
    have hnew : a.1 ∉ done.map Prod.fst := fun hmem => h.2.2 _ hmem _ List.mem_cons_self rfl
    rw [List.foldl_cons, setAttribute_of_new hnew, ih]
    · simp [planText]
    · rw [List.map_append, List.append_assoc, List.nodup_append]
      exact h

/-- Names that the attributes of an element can have together. -/
def AreNames (names : List String) : Prop :=
  names.Nodup ∧ ∀ name ∈ names, isPlainName name.toList = true ∧ name ≠ "xmlns"

instance (names : List String) : Decidable (AreNames names) :=
  inferInstanceAs (Decidable (_ ∧ _))

theorem attributesOf_eq_map {attributes : List (String × Value)}
    (h : (attributes.map Prod.fst).Nodup) :
    attributesOf attributes = attributes.map fun a => (a.1, planText a.2) :=
  foldl_setAttribute h

theorem attributesOf_sound {attributes : List (String × Value)}
    (h : AreNames (attributes.map Prod.fst)) : AttributesSound (attributesOf attributes) := by
  rw [attributesOf_eq_map h.1]
  refine ⟨by simpa [Function.comp_def] using h.1, ?_, ?_⟩
  · intro a ha
    obtain ⟨b, hb, rfl⟩ := List.mem_map.mp ha
    exact h.2 b.1 (List.mem_map_of_mem hb)
  · intro a ha
    obtain ⟨b, hb, rfl⟩ := List.mem_map.mp ha
    exact isChar_of_planText b.2

/-! ## Elements -/

/-- The tags of properties. -/
def propertyTags : List String :=
  ["stringProp", "boolProp", "intProp", "collectionProp", "elementProp"]

/-- A property that can be written, with those it holds. -/
inductive Element.IsProperty : Element → Prop
  | mk {tag : String} {attributes : List (String × String)} {text : Option String}
      {properties : List Element} (tagged : tag ∈ propertyTags)
      (named : AttributesSound attributes) (chars : ∀ s ∈ text, ∀ c ∈ s.toList, isChar c = true)
      (apart : textContent text = [] ∨ properties = [])
      (inside : ∀ p ∈ properties, p.IsProperty) : IsProperty ⟨tag, attributes, text, properties⟩

/-- The element of a test element that can be written. -/
structure Element.IsTest (e : Element) : Prop where
  tagged : isPlainName e.tag.toList = true
  named : AttributesSound e.attributes
  bare : e.text = none
  inside : ∀ p ∈ e.properties, p.IsProperty

/-- A test element that can be written, with those it owns. -/
inductive TestElement.Sound : TestElement → Prop
  | mk {element : Element} {owned : List TestElement} (test : element.IsTest)
      (inside : ∀ t ∈ owned, t.Sound) : Sound ⟨element, owned⟩

/-- A plan that can be written. -/
structure Document.Sound (d : Document) : Prop where
  named : AttributesSound d.attributes
  inside : ∀ t ∈ d.elements, t.Sound

theorem isPlainName_of_propertyTag {tag : String} (h : tag ∈ propertyTags) :
    isPlainName tag.toList = true := by
  simp only [propertyTags, List.mem_cons, List.not_mem_nil, or_false] at h
  rcases h with rfl | rfl | rfl | rfl | rfl <;> rfl

theorem nodesOf_eq_map (es : List Element) : nodesOf es = es.map Element.toNode := by
  induction es with
  | nil => rfl
  | cons e es ih => simp [nodesOf, ih]

@[simp]
theorem Element.toNode_isElement (e : Element) : e.toNode.isElement = true := by
  obtain ⟨tag, attributes, text, properties⟩ := e
  rw [toNode]
  rfl

/-- Elements one after another are sound together. -/
theorem soundAll_of_elements {ns : List Node} (helements : ∀ n ∈ ns, n.isElement = true)
    (hsound : ∀ n ∈ ns, n.Sound) : SoundAll ns := by
  induction ns with
  | nil => trivial
  | cons n ns ih =>
    exact ⟨hsound n List.mem_cons_self, .inl (helements n List.mem_cons_self),
      ih (fun m hm => helements m (List.mem_cons_of_mem n hm))
        fun m hm => hsound m (List.mem_cons_of_mem n hm)⟩

theorem textContent_sound {text : Option String} (h : ∀ s ∈ text, ∀ c ∈ s.toList, isChar c = true) :
    SoundAll (textContent text) := by
  fun_cases textContent text with
  | case1 => trivial
  | case2 s hs => trivial
  | case3 s hs => exact ⟨⟨by simpa using hs, h s rfl⟩, .inr (by simp), trivial⟩

/-- The content of an element that has not both a text and properties. -/
theorem content_sound {text : Option String} {properties : List Element}
    (hchars : ∀ s ∈ text, ∀ c ∈ s.toList, isChar c = true)
    (hapart : textContent text = [] ∨ properties = [])
    (hinside : ∀ p ∈ properties, p.toNode.Sound) :
    SoundAll (textContent text ++ nodesOf properties) := by
  obtain htext | rfl := hapart
  · rw [htext, List.nil_append, nodesOf_eq_map]
    refine soundAll_of_elements ?_ ?_
    · simp
    · simpa using hinside
  · rw [nodesOf, List.append_nil]
    exact textContent_sound hchars

theorem content_tidy (tag : String) (attributes : List (String × String)) {text : Option String}
    {properties : List Element} (hapart : textContent text = [] ∨ properties = [])
    (hinside : ∀ p ∈ properties, p.toNode.Tidy) :
    (Node.element tag attributes (textContent text ++ nodesOf properties)).Tidy := by
  obtain htext | rfl := hapart
  · refine .inr ⟨?_, ?_⟩
    · simp [htext, nodesOf_eq_map]
    · rw [Xml.tidyAll_iff, htext, List.nil_append, nodesOf_eq_map]
      simpa using hinside
  · rw [nodesOf, List.append_nil]
    fun_cases textContent text with
    | case1 => exact .inr ⟨by simp, trivial⟩
    | case2 s h => exact .inr ⟨by simp, trivial⟩
    | case3 s h => exact .inl ⟨s, rfl⟩

theorem Element.IsProperty.toNode_sound {e : Element} (h : e.IsProperty) : e.toNode.Sound := by
  induction h with
  | mk tagged named chars apart inside ih =>
    rw [toNode]
    exact ⟨isPlainName_of_propertyTag tagged, named, content_sound chars apart ih⟩

theorem Element.IsProperty.toNode_tidy {e : Element} (h : e.IsProperty) : e.toNode.Tidy := by
  induction h with
  | mk tagged named chars apart inside ih =>
    rw [toNode]
    exact content_tidy _ _ apart ih

theorem Element.IsTest.toNode_sound {e : Element} (h : e.IsTest) : e.toNode.Sound := by
  obtain ⟨tag, attributes, text, properties⟩ := e
  obtain ⟨tagged, named, rfl, inside⟩ := h
  rw [toNode]
  exact ⟨tagged, named, content_sound (by simp) (.inl rfl) fun p hp => (inside p hp).toNode_sound⟩

theorem Element.IsTest.toNode_tidy {e : Element} (h : e.IsTest) : e.toNode.Tidy := by
  obtain ⟨tag, attributes, text, properties⟩ := e
  obtain ⟨-, -, rfl, inside⟩ := h
  rw [toNode]
  exact content_tidy _ _ (.inl rfl) fun p hp => (inside p hp).toNode_tidy

/-! ## Trees -/

theorem ownedNodes_eq_flatMap (ts : List TestElement) :
    ownedNodes ts = ts.flatMap TestElement.toNodes := by
  induction ts with
  | nil => rfl
  | cons t ts ih => simp [ownedNodes, ih]

theorem TestElement.isElement_of_mem {t : TestElement} {n : Node} (h : n ∈ t.toNodes) :
    n.isElement = true := by
  obtain ⟨element, owned⟩ := t
  rw [toNodes] at h
  simp only [List.mem_cons, List.not_mem_nil, or_false] at h
  obtain rfl | rfl := h
  · exact element.toNode_isElement
  · rfl

/-- The tree of test elements is as sound and tidy as their nodes. -/
theorem hashTree_sound {ts : List TestElement}
    (h : ∀ t ∈ ts, ∀ n ∈ t.toNodes, n.Sound ∧ n.Tidy) :
    (hashTree (ownedNodes ts)).Sound ∧ (hashTree (ownedNodes ts)).Tidy := by
  have helements : ∀ n ∈ ownedNodes ts, n.isElement = true := by
    intro n hn
    rw [ownedNodes_eq_flatMap] at hn
    obtain ⟨t, -, hn⟩ := List.mem_flatMap.mp hn
    exact TestElement.isElement_of_mem hn
  have hboth : ∀ n ∈ ownedNodes ts, n.Sound ∧ n.Tidy := by
    intro n hn
    rw [ownedNodes_eq_flatMap] at hn
    obtain ⟨t, ht, hn⟩ := List.mem_flatMap.mp hn
    exact h t ht n hn
  refine ⟨⟨rfl, ⟨List.nodup_nil, by simp, by simp⟩, ?_⟩, .inr ⟨helements, ?_⟩⟩
  · exact soundAll_of_elements helements fun n hn => (hboth n hn).1
  · exact Xml.tidyAll_iff.mpr fun n hn => (hboth n hn).2

theorem TestElement.Sound.nodes {t : TestElement} (h : t.Sound) :
    ∀ n ∈ t.toNodes, n.Sound ∧ n.Tidy := by
  induction h with
  | mk test inside ih =>
    intro n hn
    rw [toNodes] at hn
    simp only [List.mem_cons, List.not_mem_nil, or_false] at hn
    obtain rfl | rfl := hn
    · exact ⟨test.toNode_sound, test.toNode_tidy⟩
    · exact hashTree_sound ih

theorem Document.Sound.toNode {d : Document} (h : d.Sound) : d.toNode.Sound ∧ d.toNode.Tidy := by
  obtain ⟨hsound, htidy⟩ := hashTree_sound fun t ht => (h.inside t ht).nodes
  refine ⟨⟨rfl, h.named, hsound, .inl rfl, trivial⟩, .inr ⟨?_, htidy, trivial⟩⟩
  simp [hashTree, Node.isElement]

/-! ## Documents -/

mutual

theorem hasNames_of_sound (n : Node) (h : n.Sound) : n.hasNames = true := by
  match n, h with
  | .text s, _ => rfl
  | .element tag attributes content, h =>
    have hbound : ∀ s : String, isPlainName s.toList = true → Xml.isBoundName s = true :=
      fun s hs => by simp [Xml.isBoundName, hs]
    rw [Node.hasNames, Bool.and_eq_true, Bool.and_eq_true, List.all_eq_true]
    exact ⟨⟨hbound tag h.1, fun a ha => hbound a.1 (h.2.1.named a ha).1⟩,
      haveNames_of_sound content h.2.2⟩

theorem haveNames_of_sound (ns : List Node) (h : SoundAll ns) : Xml.haveNames ns = true := by
  match ns, h with
  | [], _ => rfl
  | n :: ns, h =>
    simp [Xml.haveNames, hasNames_of_sound n h.1, haveNames_of_sound ns h.2.2]

end

/-- The tree of a plan, written compactly and read again, is the tree that is rendered. -/
theorem Document.Sound.read_compact {d : Document} (h : d.Sound) :
    Xml.read d.toNode.compact.toUTF8.data.toList = .ok d.toNode.unifyLines :=
  Xml.read_compact rfl h.toNode.1

/-- A plan that can be written is rendered, and the text is read back as its tree with line breaks
between elements. -/
theorem Document.Sound.read_render {d : Document} (h : d.Sound) :
    ∃ xml tree, d.render = .ok xml ∧ Xml.read xml.toUTF8.data.toList = .ok tree ∧
      tree.dropLayout = d.toNode.asRead := by
  obtain ⟨hsound, htidy⟩ := h.toNode
  have helement : d.toNode.unifyLines.isElement = true := by
    rw [Node.unifyLines_isElement]
    rfl
  refine ⟨Xml.document d.toNode.unifyLines, _, ?_,
    Xml.read_document helement (Node.unifyLines_sound _ hsound) (Node.unifyLines_tidy _ htidy), ?_⟩
  · rw [render, if_pos (hasNames_of_sound _ hsound)]
  · rw [Xml.Style.dropLayout_readBack, Node.dropLayout_laidOut _ _ (Node.unifyLines_tidy _ htidy),
      Xml.Style.readBack_unifyLines, Xml.indentedStyle_readBack]

end LoadPlan.Plan
