import LoadPlan.Plan.Review
import LoadPlan.Proofs.Xml.Lookup

/-!
# Defects do not depend on layout

Whether a tree has defects is decided by lookups alone, so it is the same for a tree and for what is
read of it (`defects_keeps`). For the texts of samplers this needs that their properties hold no
elements.
-/

namespace LoadPlan.Plan

open Xml (Node Keeps isSpace)

/-- The text properties of samplers hold no elements. -/
def SamplersPlain (root : Node) : Prop :=
  ∀ n ∈ root.withTag "HTTPSamplerProxy", ∀ c ∈ n.children, c.tag = "stringProp" → c.children = []

/-- A sampler with a method. -/
def HasMethodText (n : Node) : Prop :=
  propertyText n "HTTPSampler.method" ≠ ""

/-- An assertion with test strings. -/
def HasTestStrings (n : Node) : Prop :=
  ∃ strings, property? n "collectionProp" "Asserion.test_strings" = some strings ∧
    strings.children ≠ []

theorem indexed_eq_nil {α : Type} {f : Node → Nat → List α} {P : Node → Prop}
    (h : ∀ n i, f n i = [] ↔ P n) (nodes : List Node) :
    indexed f nodes = [] ↔ ∀ n ∈ nodes, P n := by
  rw [indexed, List.flatMap_eq_nil_iff]
  constructor
  · intro hall n hn
    rw [← List.zipIdx_map_fst 1 nodes] at hn
    obtain ⟨a, ha, rfl⟩ := List.mem_map.mp hn
    exact (h a.1 a.2).mp (hall a ha)
  · exact fun hall a ha => (h a.1 a.2).mpr (hall a.1 (List.fst_mem_of_mem_zipIdx ha))

/-- Indices do not matter where elements are told apart without them. -/
theorem indexed_eq_flatMap {α : Type} {f : Node → Nat → List α} {g : Node → List α}
    {nodes : List Node} (h : ∀ n ∈ nodes, ∀ i, f n i = g n) : indexed f nodes = nodes.flatMap g := by
  have hsame : ∀ a ∈ nodes.zipIdx 1, f a.1 a.2 = g a.1 :=
    fun a ha => h a.1 (List.fst_mem_of_mem_zipIdx ha) a.2
  calc indexed f nodes = (nodes.zipIdx 1).flatMap fun a => g a.1 := List.flatMap_congr hsame
    _ = ((nodes.zipIdx 1).map Prod.fst).flatMap g := by rw [List.flatMap_map]
    _ = nodes.flatMap g := by rw [List.zipIdx_map_fst]

theorem samplerDefect_eq_nil (n : Node) (i : Nat) : samplerDefect n i = [] ↔ HasMethodText n := by
  rw [samplerDefect, HasMethodText]
  split <;> simp_all

theorem assertionDefect_eq_nil (n : Node) (i : Nat) :
    assertionDefect n i = [] ↔ HasTestStrings n := by
  rw [assertionDefect, HasTestStrings]
  cases property? n "collectionProp" "Asserion.test_strings" with
  | none => simp
  | some strings => by_cases h : strings.children = [] <;> simp [h]

/-- The attributes of a root without defects. -/
theorem attributeDefects_eq_nil (root : Node) : attributeDefects root = [] ↔
    root.attribute? "version" = some "1.2" ∧ root.attribute? "properties" = some "5.0" ∧
      ((root.attribute? "jmeter").getD "").isEmpty = false := by
  rw [attributeDefects, List.append_eq_nil_iff, List.filterMap_eq_nil_iff]
  simp [rootAttributes, and_assoc]

/-- What a tree without defects is like. -/
theorem defects_eq_nil (root : Node) : defects root = [] ↔
    root.tag = "jmeterTestPlan" ∧ attributeDefects root = [] ∧ mainTreeDefects root = [] ∧
      (∀ tree ∈ root.withTag "hashTree", groupDefects tree.children = []) ∧
      (∀ n ∈ root.withTag "HTTPSamplerProxy", HasMethodText n) ∧
      ∀ n ∈ root.withTag "ResponseAssertion", HasTestStrings n := by
  rw [defects]
  by_cases h : root.tag = "jmeterTestPlan"
  · rw [if_neg (by simp [h])]
    simp only [List.append_eq_nil_iff, List.flatMap_eq_nil_iff, indexed_eq_nil samplerDefect_eq_nil,
      indexed_eq_nil assertionDefect_eq_nil, h, true_and, and_assoc]
  · rw [if_pos (by simp [h])]
    simp [h]

section Keeps

variable {f : Node → Node} {g : String → String} (hk : Keeps f g)

include hk

theorem attributeDefects_keeps (root : Node) :
    attributeDefects (f root) = [] ↔ attributeDefects root = [] := by
  have hvalue (t : String) (ht : ∀ c ∈ t.toList, isSpace c = false) (found : Option String) :
      found.map g = some t ↔ found = some t := by
    cases found with
    | none => simp
    | some s => simpa using hk.value s t ht
  have hversion := hvalue "1.2" (by simp [isSpace]) (root.attribute? "version")
  have hproperties := hvalue "5.0" (by simp [isSpace]) (root.attribute? "properties")
  have hjmeter : (((root.attribute? "jmeter").map g).getD "").isEmpty =
      ((root.attribute? "jmeter").getD "").isEmpty := by
    cases root.attribute? "jmeter" with
    | none => rfl
    | some s =>
      rw [Option.map_some, Option.getD_some, Option.getD_some, Bool.eq_iff_iff, String.isEmpty_iff,
        String.isEmpty_iff]
      exact hk.value s "" (by simp)
  rw [attributeDefects_eq_nil, attributeDefects_eq_nil, hk.lookup, hk.lookup, hk.lookup, hversion,
    hproperties, hjmeter]

theorem child?_keeps (n : Node) (tag : String) : child? (f n) tag = (child? n tag).map f := by
  rw [child?, child?, hk.children, List.find?_map]
  simp [hk.tag]

theorem mainTreeDefects_keeps (root : Node) :
    mainTreeDefects (f root) = [] ↔ mainTreeDefects root = [] := by
  rw [mainTreeDefects, mainTreeDefects, child?_keeps hk]
  cases child? root "hashTree" with
  | none => simp
  | some tree => simp [child?_keeps hk]

theorem endsWithListener_keeps (ns : List Node) :
    endsWithListener (ns.map f) = endsWithListener ns := by
  have htag : (fun n : Node => n.tag != "hashTree") ∘ f = fun n => n.tag != "hashTree" := by
    funext n
    simp [hk.tag]
  rw [endsWithListener, endsWithListener, List.filter_map, htag, List.getLast?_map]
  cases (ns.filter fun n => n.tag != "hashTree").getLast? with
  | none => rfl
  | some last => simp [hk.tag]

theorem groupDefect_keeps (n : Node) (after : List Node) :
    groupDefect (f n) (after.map f) = [] ↔ groupDefect n after = [] := by
  cases after with
  | nil => simp [groupDefect]
  | cons tree rest =>
    rw [List.map_cons, groupDefect, groupDefect, hk.tag, hk.children, endsWithListener_keeps hk]
    split
    · simp
    · split <;> simp

theorem groupDefects_keeps (ns : List Node) :
    groupDefects (ns.map f) = [] ↔ groupDefects ns = [] := by
  induction ns with
  | nil => rfl
  | cons n ns ih =>
    rw [List.map_cons, groupDefects, groupDefects, hk.tag, List.append_eq_nil_iff,
      List.append_eq_nil_iff, ih]
    refine and_congr_left fun _ => ?_
    split
    · exact groupDefect_keeps hk n ns
    · rfl

theorem property?_keeps (n : Node) (tag : String) {name : String}
    (hname : ∀ c ∈ name.toList, isSpace c = false) :
    property? (f n) tag name = (property? n tag name).map f := by
  have hsame (c : Node) : (((c.attribute? "name").map g) == some name) =
      (c.attribute? "name" == some name) := by
    cases c.attribute? "name" with
    | none => rfl
    | some s => simpa using hk.value s name hname
  rw [property?, property?, hk.children, List.find?_map]
  congr 2
  funext c
  simp [hk.tag, hk.lookup, hsame]

/-- A text property without elements in it is empty or not as before. -/
theorem hasMethodText_keeps {n : Node}
    (hplain : ∀ c ∈ n.children, c.tag = "stringProp" → c.children = []) :
    HasMethodText (f n) ↔ HasMethodText n := by
  have hproperty : property? (f n) "stringProp" "HTTPSampler.method" =
      (property? n "stringProp" "HTTPSampler.method").map f :=
    property?_keeps hk n "stringProp" (by simp [isSpace])
  rw [HasMethodText, HasMethodText, propertyText, propertyText, hproperty]
  cases hfound : property? n "stringProp" "HTTPSampler.method" with
  | none => rfl
  | some c =>
    have htag : c.tag = "stringProp" := by
      have := List.find?_some hfound
      simp at this
      exact this.1
    exact not_congr (hk.text c (hplain c (List.mem_of_find?_eq_some hfound) htag))

theorem hasTestStrings_keeps (n : Node) : HasTestStrings (f n) ↔ HasTestStrings n := by
  have hproperty : property? (f n) "collectionProp" "Asserion.test_strings" =
      (property? n "collectionProp" "Asserion.test_strings").map f :=
    property?_keeps hk n "collectionProp" (by simp [isSpace])
  rw [HasTestStrings, HasTestStrings, hproperty]
  cases property? n "collectionProp" "Asserion.test_strings" with
  | none => simp
  | some strings => simp [hk.children]

/-- Whether a tree has defects does not change. -/
theorem defects_keeps {root : Node} (hplain : SamplersPlain root) :
    defects (f root) = [] ↔ defects root = [] := by
  rw [defects_eq_nil, defects_eq_nil, hk.tag, attributeDefects_keeps hk, mainTreeDefects_keeps hk,
    hk.withTag, hk.withTag, hk.withTag]
  have hmethods : (∀ n ∈ root.withTag "HTTPSamplerProxy", HasMethodText (f n)) ↔
      ∀ n ∈ root.withTag "HTTPSamplerProxy", HasMethodText n :=
    forall₂_congr fun n hn => hasMethodText_keeps hk (hplain n hn)
  simp only [List.forall_mem_map, hk.children, groupDefects_keeps hk, hasTestStrings_keeps hk,
    hmethods]

theorem samplersPlain_keeps (root : Node) : SamplersPlain (f root) ↔ SamplersPlain root := by
  rw [SamplersPlain, SamplersPlain, hk.withTag]
  simp [hk.children, hk.tag]

end Keeps

/-- What is read of a tree has defects if the tree has, in whatever layout it was written. -/
theorem defects_of_layout {n tree : Node} (hplain : SamplersPlain n)
    (hlayout : tree.dropLayout = n.asRead) : defects tree = [] ↔ defects n = [] := by
  have htree : SamplersPlain tree := by
    rw [← samplersPlain_keeps Xml.dropLayout_keeps, hlayout]
    exact (samplersPlain_keeps Xml.asRead_keeps n).mpr hplain
  rw [← defects_keeps Xml.dropLayout_keeps htree, hlayout, defects_keeps Xml.asRead_keeps hplain]

end LoadPlan.Plan
