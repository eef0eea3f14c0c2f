import LoadPlan.Proofs.Xml.Lookup
import Mathlib.Data.List.Forall2

/-!
# What a reader finds of a tree

A tree that was read stands in a relation to the tree that was written (`ReadFrom`): apart from
layout it is the written one with spaces for blanks in values and with line feeds for line ends in
texts. Lookups in the two give elements in the same relation, so a value that is found is the
written one as it is read (`readValue`), and so is a text (`readText`).
-/

namespace LoadPlan.Xml

open Text (unifyLineEnds)

/-- The value of an attribute as it is read. -/
def readValue (s : String) : String :=
  String.ofList (blanksAsSpaces s.toList)

/-- A text as it is read. -/
def readText (s : String) : String :=
  String.ofList (unifyLineEnds s.toList)

/-- A tree that was read, of a tree that was written. -/
def ReadFrom (read written : Node) : Prop :=
  read.dropLayout = written.asRead

/-- An element that holds a text or nothing. -/
def Node.IsLeaf (n : Node) : Prop :=
  n.content = [] ∨ ∃ s, n.content = [.text s]

/-! ## Values and texts that are kept -/

theorem blanksAsSpaces_eq_self (cs : List Char) :
    blanksAsSpaces cs = cs ↔ ∀ c ∈ cs, c = ' ' ∨ isSpace c = false := by
  fun_induction blanksAsSpaces cs with
  | case1 => simp
  | case2 rest ih => simp [isSpace]
  | case3 c rest hnot ih =>
    rw [List.cons.injEq, ih, List.forall_mem_cons]
    refine and_congr_left fun _ => ?_
    by_cases hspace : isSpace c = true
    · simp [hspace, eq_comm]
    · simp [hspace]

/-- A value is read as it was written if it has no blanks other than spaces. -/
theorem readValue_eq_self (s : String) :
    readValue s = s ↔ ∀ c ∈ s.toList, c = ' ' ∨ isSpace c = false := by
  rw [readValue, ← String.toList_inj, String.toList_ofList, blanksAsSpaces_eq_self]

/-- A text is read as it was written if it has no carriage return. -/
theorem readText_eq_self (s : String) : readText s = s ↔ '\r' ∉ s.toList := by
  rw [readText, ← String.toList_inj, String.toList_ofList]
  constructor
  · intro h
    rw [← h]
    exact not_mem_unifyLineEnds s.toList
  · exact unifyLineEnds_of_not_mem

/-! ## Lookups -/

/-- Lists whose members are equal after changes are related member by member. -/
theorem forall₂_of_map_eq {α β γ : Type} {f : α → γ} {g : β → γ} {as : List α} {bs : List β}
    (h : as.map f = bs.map g) : List.Forall₂ (fun a b => f a = g b) as bs := by
  rw [← List.forall₂_map_right_iff (f := g), ← List.forall₂_map_left_iff (f := f),
    List.forall₂_eq_eq_eq, h]

@[simp]
theorem content_asRead (n : Node) : n.asRead.content = asReadAll n.content := by
  cases n <;> rfl

/-- Content without elements has no layout. -/
theorem content_dropLayout {n : Node} (h : n.children = []) : n.dropLayout.content = n.content := by
  cases n with
  | text s => rfl
  | element tag attributes content =>
    have hnone : ¬ content.any Node.isElement = true := by
      simpa [Node.children, Node.content] using h
    rw [Node.dropLayout, if_neg hnone, Node.content]

@[simp]
theorem leadingText_singleton (s : String) : Node.leadingText [.text s] = s :=
  String.append_empty

namespace ReadFrom

variable {read written : Node} (h : ReadFrom read written)

include h

theorem attribute? (name : String) :
    read.attribute? name = (written.attribute? name).map readValue := by
  have hlookup := dropLayout_keeps.lookup read name
  rw [h, asRead_keeps.lookup, Option.map_id] at hlookup
  exact hlookup.symm

theorem children : List.Forall₂ ReadFrom read.children written.children := by
  apply forall₂_of_map_eq
  rw [← dropLayout_keeps.children, h, asRead_keeps.children]

theorem withTag (wanted : String) :
    List.Forall₂ ReadFrom (read.withTag wanted) (written.withTag wanted) := by
  apply forall₂_of_map_eq
  rw [← dropLayout_keeps.withTag, h, asRead_keeps.withTag]

/-- The text of a leaf is the written one, as it is read. -/
theorem ownText (hleaf : written.IsLeaf) : read.ownText = readText written.ownText := by
  have hbare : written.children = [] := by
    rcases hleaf with hempty | ⟨s, htext⟩
    · rw [Node.children, hempty]
      rfl
    · rw [Node.children, htext]
      rfl
  have hchildren : read.children = [] := List.forall₂_nil_right_iff.mp (hbare ▸ h.children)
  have hcontent : read.content = asReadAll written.content := by
    rw [← content_dropLayout hchildren, h, content_asRead]
  rw [Node.ownText, Node.ownText, hcontent]
  rcases hleaf with hempty | ⟨s, htext⟩
  · rw [hempty]
    rfl
  · rw [htext, leadingText_singleton]
    exact leadingText_singleton _

end ReadFrom

end LoadPlan.Xml
