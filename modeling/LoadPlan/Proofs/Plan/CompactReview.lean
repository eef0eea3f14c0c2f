import LoadPlan.Proofs.Plan.Defects
import LoadPlan.Proofs.Xml.Document

/-!
# Reviewing a plan in the compact layout

A tree that was written compactly is read as it is, up to line ends of its texts, and no check sees
these. So a review of the text finds the defects of the tree, each under the same name
(`reviewText_compact`).
-/

namespace LoadPlan

/-! ## Line ends -/

namespace Xml

theorem ownText_unifyLines (n : Node) : n.unifyLines.ownText = "" ↔ n.ownText = "" := by
  have hread (m : Node) : m.asRead.ownText = "" ↔ m.ownText = "" := by
    cases m with
    | text s => rfl
    | element tag attributes content => exact leadingText_asReadAll content
  have hsame : n.unifyLines.asRead = n.asRead := by
    rw [← indentedStyle_readBack, ← indentedStyle_readBack, Style.readBack_unifyLines]
  rw [← hread n.unifyLines, hsame, hread]

theorem unifyLines_keeps : Keeps Node.unifyLines id where
  tag n := by cases n <;> rfl
  isElement := Node.unifyLines_isElement
  lookup n name := by
    rw [Option.map_id]
    cases n <;> rfl
  children n := by
    cases n with
    | text => rfl
    | element tag attributes content =>
      simp [Node.unifyLines, Node.children, Node.content, List.filter_map, Function.comp_def]
  text n _ := ownText_unifyLines n
  value s t _ := Iff.rfl

@[simp]
theorem attribute?_unifyLines (n : Node) (name : String) :
    n.unifyLines.attribute? name = n.attribute? name := by
  rw [unifyLines_keeps.lookup, Option.map_id]
  rfl

end Xml

namespace Plan

open Xml (Node unifyLines_keeps attribute?_unifyLines isSpace)

/-! ## Defects -/

@[simp]
theorem attributeDefects_unifyLines (root : Node) :
    attributeDefects root.unifyLines = attributeDefects root := by
  simp only [attributeDefects, attribute?_unifyLines]

theorem mainTreeDefects_unifyLines (root : Node) :
    mainTreeDefects root.unifyLines = mainTreeDefects root := by
  rw [mainTreeDefects, mainTreeDefects, child?_keeps unifyLines_keeps]
  cases child? root "hashTree" with
  | none => rfl
  | some tree => simp [child?_keeps unifyLines_keeps]

theorem groupDefect_unifyLines (n : Node) (after : List Node) :
    groupDefect n.unifyLines (after.map Node.unifyLines) = groupDefect n after := by
  cases after with
  | nil => rw [List.map_nil, groupDefect, groupDefect, attribute?_unifyLines]
  | cons tree rest =>
    rw [List.map_cons, groupDefect, groupDefect, attribute?_unifyLines, unifyLines_keeps.tag,
      unifyLines_keeps.children, endsWithListener_keeps unifyLines_keeps]

theorem groupDefects_unifyLines (ns : List Node) :
    groupDefects (ns.map Node.unifyLines) = groupDefects ns := by
  induction ns with
  | nil => rfl
  | cons n ns ih =>
    rw [List.map_cons, groupDefects, groupDefects, unifyLines_keeps.tag, groupDefect_unifyLines, ih]

@[simp]
theorem nameOf_unifyLines (what : String) (n : Node) (index : Nat) :
    nameOf what n.unifyLines index = nameOf what n index := by
  rw [nameOf, nameOf, attribute?_unifyLines]

theorem samplerDefect_unifyLines (n : Node) (index : Nat) :
    samplerDefect n.unifyLines index = samplerDefect n index := by
  have htext : (propertyText n.unifyLines "HTTPSampler.method").isEmpty =
      (propertyText n "HTTPSampler.method").isEmpty := by
    rw [propertyText, propertyText,
      property?_keeps unifyLines_keeps n "stringProp" (by simp [isSpace])]
    cases property? n "stringProp" "HTTPSampler.method" with
    | none => rfl
    | some p =>
      rw [Bool.eq_iff_iff, String.isEmpty_iff, String.isEmpty_iff]
      exact Xml.ownText_unifyLines p
  rw [samplerDefect, samplerDefect, htext, nameOf_unifyLines]

theorem assertionDefect_unifyLines (n : Node) (index : Nat) :
    assertionDefect n.unifyLines index = assertionDefect n index := by
  rw [assertionDefect, assertionDefect, nameOf_unifyLines,
    property?_keeps unifyLines_keeps n "collectionProp" (by simp [isSpace])]
  cases property? n "collectionProp" "Asserion.test_strings" with
  | none => rfl
  | some strings => simp [unifyLines_keeps.children]

theorem indexed_map {α : Type} {f : Node → Node} {g : Node → Nat → List α}
    (h : ∀ n i, g (f n) i = g n i) (nodes : List Node) :
    indexed g (nodes.map f) = indexed g nodes := by
  simp [indexed, List.zipIdx_map, List.flatMap_map, h]

/-- The defects of a tree do not depend on the line ends of its texts. -/
theorem defects_unifyLines (root : Node) : defects root.unifyLines = defects root := by
  rw [defects, defects, unifyLines_keeps.tag, attributeDefects_unifyLines,
    mainTreeDefects_unifyLines, unifyLines_keeps.withTag, unifyLines_keeps.withTag,
    unifyLines_keeps.withTag, indexed_map samplerDefect_unifyLines,
    indexed_map assertionDefect_unifyLines, List.flatMap_map]
  simp only [unifyLines_keeps.children, groupDefects_unifyLines]

/-! ## Texts -/

/-- A tree that was written compactly is reviewed like the tree. -/
theorem reviewText_compact {n : Node} (helement : n.isElement = true) (hsound : n.Sound) :
    ∃ review, reviewText n.compact = .ok review ∧ review.defects = defects n := by
  refine ⟨review n.unifyLines, ?_, defects_unifyLines n⟩
  rw [reviewText, Xml.read_compact helement hsound]

/-- A review reports one defect of a tree and nothing else, before the tree is written and after. -/
def Reports (root : Node) (defect : Defect) : Prop :=
  defects root = [defect] ∧
    ∃ review, reviewText root.compact = .ok review ∧ review.defects = [defect]

theorem reports_of_sound {root : Node} (helement : root.isElement = true) (hsound : root.Sound)
    {defect : Defect} (h : defects root = [defect]) : Reports root defect := by
  obtain ⟨review, hreview, hdefects⟩ := reviewText_compact helement hsound
  exact ⟨h, review, hreview, hdefects.trans h⟩

end Plan

end LoadPlan
