import LoadPlan.Proofs.Plan.Defects
import LoadPlan.Proofs.Xml.Document

/-!
# The structure of a valid plan

A review searches a document by tags. What it accepts is said here without the search: an element
is in a document when it is the root or in an element that the root holds, and a thread group is
closed when the tree after it ends with a listener. A review is valid exactly if the root is as it
must be, each sampler in the document has a method, each assertion in it has test strings, and the
thread groups that trees hold are closed (`reviewText_isValid_iff`).

Thread groups are only looked for among what trees hold. One that stands elsewhere, such as beside
the main tree, is in the document too, but may be followed by anything
(`reviewText_strayGroupPlan`).
-/

namespace LoadPlan

/-! ## Elements in a document -/

namespace Xml.Node

/-- An element in a document: its root, or one in an element that the root holds. -/
inductive Within : Node → Node → Prop where
  | root (n : Node) : Within n n
  | held {root c n : Node} (hc : c ∈ root.children) (hn : Within c n) : Within root n

theorem within_iff {root n : Node} :
    Within root n ↔ n = root ∨ ∃ c ∈ root.children, Within c n := by
  constructor
  · rintro (_ | ⟨hc, hn⟩)
    · exact .inl rfl
    · exact .inr ⟨_, hc, hn⟩
  · rintro (rfl | ⟨c, hc, hn⟩)
    · exact .root n
    · exact .held hc hn

/-- The elements found by a tag are all those in the document that have it. -/
theorem mem_withTag_iff (wanted : String) {root n : Node} (helement : root.isElement = true) :
    n ∈ root.withTag wanted ↔ Within root n ∧ n.tag = wanted := by
  have hheld : ∀ c ∈ root.children, (n ∈ c.withTag wanted ↔ Within c n ∧ n.tag = wanted) :=
    fun c hc => mem_withTag_iff wanted (List.mem_filter.mp hc).2
  have hroot : n ∈ (if root.tag == wanted then [root] else []) ↔ n = root ∧ n.tag = wanted := by
    split
    · simp_all
    · rename_i hne
      simp only [List.not_mem_nil, false_iff, not_and]
      rintro rfl heq
      exact hne (by simp [heq])
  calc n ∈ root.withTag wanted
    _ ↔ (n = root ∧ n.tag = wanted) ∨ ∃ c ∈ root.children, n ∈ c.withTag wanted := by
      rw [withTag_eq wanted helement, withTagIn_eq_flatMap, List.mem_append, hroot,
        List.mem_flatMap]
    _ ↔ (n = root ∧ n.tag = wanted) ∨ ∃ c ∈ root.children, Within c n ∧ n.tag = wanted :=
      or_congr_right (exists_congr fun c => and_congr_right (hheld c))
    _ ↔ Within root n ∧ n.tag = wanted := by
      rw [within_iff]
      grind
termination_by root
decreasing_by exact sizeOf_lt_of_mem_children hc

theorem isElement_of_tag {n : Node} (h : n.tag ≠ "") : n.isElement = true := by
  cases n with
  | element => rfl
  | text => exact absurd rfl h

end Xml.Node

namespace Plan

open Xml (Node)
open Xml.Node (Within)

/-! ## Thread groups -/

/-- Elements in a row that end with a listener, trees apart. -/
def ClosesWithListener (ns : List Node) : Prop :=
  ∃ before listener trees, ns = before ++ listener :: trees ∧
    listener.tag = "BackendListener" ∧ ∀ tree ∈ trees, tree.tag = "hashTree"

/-- What has to stand after a thread group: first its tree, which ends with a listener. -/
def ClosesGroup (after : List Node) : Prop :=
  ∃ tree rest, after = tree :: rest ∧ tree.tag = "hashTree" ∧ ClosesWithListener tree.children

/-- Elements in a row of which all thread groups are closed. -/
def GroupsClosed (ns : List Node) : Prop :=
  ∀ before group after, ns = before ++ group :: after → group.tag = "ThreadGroup" →
    ClosesGroup after

/-- The last member that satisfies a condition is one that satisfies it with only others after. -/
theorem getLast?_filter_eq_some {α : Type} {p : α → Bool} {xs : List α} {x : α} :
    (xs.filter p).getLast? = some x ↔
      ∃ before after, xs = before ++ x :: after ∧ p x = true ∧ ∀ y ∈ after, p y = false := by
  rw [← List.head?_reverse, ← List.filter_reverse, List.head?_filter,
    List.find?_eq_some_iff_append]
  constructor
  · rintro ⟨hx, rev, rest, hsplit, hrev⟩
    refine ⟨rest.reverse, rev.reverse, ?_, hx, by simpa using hrev⟩
    simpa using congrArg List.reverse hsplit
  · rintro ⟨before, after, rfl, hx, hafter⟩
    exact ⟨hx, after.reverse, before.reverse, by simp, by simpa using hafter⟩

theorem endsWithListener_iff (ns : List Node) :
    endsWithListener ns = true ↔ ClosesWithListener ns := by
  have hlast : endsWithListener ns = true ↔ ∃ last,
      (ns.filter (·.tag != "hashTree")).getLast? = some last ∧ last.tag = "BackendListener" := by
    unfold endsWithListener
    cases (ns.filter (·.tag != "hashTree")).getLast? <;> simp
  rw [hlast, ClosesWithListener]
  constructor
  · rintro ⟨listener, hfound, htag⟩
    obtain ⟨before, trees, hsplit, -, htrees⟩ := getLast?_filter_eq_some.mp hfound
    exact ⟨before, listener, trees, hsplit, htag, by simpa using htrees⟩
  · rintro ⟨before, listener, trees, hsplit, htag, htrees⟩
    refine ⟨listener, getLast?_filter_eq_some.mpr ?_, htag⟩
    exact ⟨before, trees, hsplit, by simp [htag], by simpa using htrees⟩

theorem groupDefect_eq_nil (group : Node) (after : List Node) :
    groupDefect group after = [] ↔ ClosesGroup after := by
  cases after with
  | nil => simp [groupDefect, ClosesGroup]
  | cons tree rest =>
    have hcloses : ClosesGroup (tree :: rest) ↔
        tree.tag = "hashTree" ∧ ClosesWithListener tree.children := by
      constructor
      · rintro ⟨tree', rest', heq, h⟩
        cases heq
        exact h
      · exact fun h => ⟨tree, rest, rfl, h⟩
    rw [groupDefect, hcloses, ← endsWithListener_iff]
    split
    · simp_all
    · split <;> simp_all

/-- Thread groups have no defects exactly if all of them are closed. -/
theorem groupDefects_eq_nil (ns : List Node) : groupDefects ns = [] ↔ GroupsClosed ns := by
  induction ns with
  | nil => simp [groupDefects, GroupsClosed]
  | cons n ns ih =>
    have hfirst : (if n.tag == "ThreadGroup" then groupDefect n ns else []) = [] ↔
        (n.tag = "ThreadGroup" → ClosesGroup ns) := by
      rw [← groupDefect_eq_nil n ns]
      split <;> simp_all
    rw [groupDefects, List.append_eq_nil_iff, hfirst, ih]
    constructor
    · rintro ⟨hn, hns⟩ (_ | ⟨m, before⟩) group after hsplit htag
      · cases hsplit
        exact hn htag
      · cases hsplit
        exact hns before group after rfl htag
    · intro h
      exact ⟨h [] n ns rfl, fun before group after hsplit =>
        h (n :: before) group after (by rw [hsplit]; rfl)⟩

/-! ## Valid plans -/

/-- The structure that a review asks of a plan. -/
structure IsReviewed (root : Node) : Prop where
  tag : root.tag = "jmeterTestPlan"
  version : root.attribute? "version" = some "1.2"
  properties : root.attribute? "properties" = some "5.0"
  jmeter : ∃ release, root.attribute? "jmeter" = some release ∧ release ≠ ""
  /-- The first tree of the root holds the test. -/
  mainTree : ∃ tree, child? root "hashTree" = some tree ∧
    ∃ plan ∈ tree.children, plan.tag = "TestPlan"
  /-- The thread groups that a tree holds are closed. -/
  groups : ∀ tree, Within root tree → tree.tag = "hashTree" → GroupsClosed tree.children
  methods : ∀ sampler, Within root sampler → sampler.tag = "HTTPSamplerProxy" →
    HasMethodText sampler
  testStrings : ∀ assertion, Within root assertion → assertion.tag = "ResponseAssertion" →
    HasTestStrings assertion

theorem mainTreeDefects_eq_nil (root : Node) : mainTreeDefects root = [] ↔
    ∃ tree, child? root "hashTree" = some tree ∧ ∃ plan ∈ tree.children, plan.tag = "TestPlan" := by
  unfold mainTreeDefects
  cases child? root "hashTree" with
  | none => simp
  | some tree => simp [child?]

/-- A plan without defects has the structure, and the other way round. -/
theorem defects_eq_nil_iff_isReviewed (root : Node) : defects root = [] ↔ IsReviewed root := by
  have hjmeter : ((root.attribute? "jmeter").getD "").isEmpty = false ↔
      ∃ release, root.attribute? "jmeter" = some release ∧ release ≠ "" := by
    cases root.attribute? "jmeter" <;> simp
  rw [defects_eq_nil, attributeDefects_eq_nil, mainTreeDefects_eq_nil, hjmeter]
  simp only [groupDefects_eq_nil]
  constructor
  · rintro ⟨htag, ⟨hversion, hproperties, hjmeter⟩, hmain, hgroups, hmethods, hstrings⟩
    have hfound {wanted : String} {n : Node} (hn : Within root n) (h : n.tag = wanted) :
        n ∈ root.withTag wanted :=
      (Xml.Node.mem_withTag_iff wanted (Xml.Node.isElement_of_tag (by simp [htag]))).mpr ⟨hn, h⟩
    exact {
      tag := htag
      version := hversion
      properties := hproperties
      jmeter := hjmeter
      mainTree := hmain
      groups := fun tree hn h => hgroups tree (hfound hn h)
      methods := fun sampler hn h => hmethods sampler (hfound hn h)
      testStrings := fun assertion hn h => hstrings assertion (hfound hn h) }
  · intro h
    have hwithin {wanted : String} {n : Node} (hn : n ∈ root.withTag wanted) :
        Within root n ∧ n.tag = wanted :=
      (Xml.Node.mem_withTag_iff wanted (Xml.Node.isElement_of_tag (by simp [h.tag]))).mp hn
    exact ⟨h.tag, ⟨h.version, h.properties, h.jmeter⟩, h.mainTree,
      fun tree hn => h.groups tree (hwithin hn).1 (hwithin hn).2,
      fun sampler hn => h.methods sampler (hwithin hn).1 (hwithin hn).2,
      fun assertion hn => h.testStrings assertion (hwithin hn).1 (hwithin hn).2⟩

/-- A text is reviewed as valid exactly if it is a document with the structure. -/
theorem reviewText_isValid_iff (s : String) :
    (∃ review, reviewText s = .ok review ∧ review.isValid = true) ↔
      ∃ root, Xml.read s.toUTF8.data.toList = .ok root ∧ IsReviewed root := by
  unfold reviewText
  cases Xml.read s.toUTF8.data.toList with
  | error e => simp
  | ok root => simp [review, Review.isValid, defects_eq_nil_iff_isReviewed]

/-! ## A thread group outside the trees -/

/-- A plan with a thread group beside its main tree, and nothing after the group. -/
def strayGroupPlan : Node :=
  .element "jmeterTestPlan" [("version", "1.2"), ("properties", "5.0"), ("jmeter", "5.2.1")]
    [.element "hashTree" [] [.element "TestPlan" [] []],
      .element "ThreadGroup" [("testname", "G")] []]

/-- The plan as a text. -/
def strayGroupText : String :=
  "<jmeterTestPlan version=\"1.2\" properties=\"5.0\" jmeter=\"5.2.1\"><hashTree><TestPlan />" ++
    "</hashTree><ThreadGroup testname=\"G\" /></jmeterTestPlan>"

theorem strayGroupPlan_compact : strayGroupPlan.compact = strayGroupText := by
  decide +kernel

theorem strayGroupPlan_sound : strayGroupPlan.Sound := by
  have hnone : Xml.AttributesSound [] := ⟨by simp, by simp, by simp⟩
  have hroot : Xml.AttributesSound
      [("version", "1.2"), ("properties", "5.0"), ("jmeter", "5.2.1")] :=
    ⟨by decide, by decide +kernel, by simp [Xml.isChar]⟩
  have hgroup : Xml.AttributesSound [("testname", "G")] :=
    ⟨by decide, by decide +kernel, by simp [Xml.isChar]⟩
  have hnames : ∀ tag ∈ ["jmeterTestPlan", "hashTree", "TestPlan", "ThreadGroup"],
      Xml.isPlainName tag.toList = true := by
    decide +kernel
  simp only [List.forall_mem_cons] at hnames
  simp only [strayGroupPlan, Node.Sound, Xml.SoundAll]
  simp only [hnone, hroot, hgroup, hnames, Node.isElement, true_or, and_self]

theorem read_strayGroupText : Xml.read strayGroupText.toUTF8.data.toList = .ok strayGroupPlan := by
  rw [← strayGroupPlan_compact, Xml.read_compact rfl strayGroupPlan_sound]
  rfl

/-- The thread group is not closed, yet the plan is reviewed as valid. -/
theorem reviewText_strayGroupPlan :
    (∃ review, reviewText strayGroupText = .ok review ∧ review.isValid = true) ∧
      Xml.read strayGroupText.toUTF8.data.toList = .ok strayGroupPlan ∧
      ¬ ∀ n, Within strayGroupPlan n → GroupsClosed n.children := by
  refine ⟨⟨review strayGroupPlan, ?_, by decide +kernel⟩, read_strayGroupText, fun hclosed => ?_⟩
  · rw [reviewText, read_strayGroupText]
  · have hgroups : GroupsClosed strayGroupPlan.children := hclosed strayGroupPlan (.root _)
    obtain ⟨tree, rest, hafter, -⟩ := hgroups
      [.element "hashTree" [] [.element "TestPlan" [] []]]
      (.element "ThreadGroup" [("testname", "G")] []) [] rfl rfl
    cases hafter

end Plan

end LoadPlan
