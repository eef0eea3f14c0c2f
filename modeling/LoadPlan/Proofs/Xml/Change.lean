import LoadPlan.Proofs.Xml.Lookup

/-!
# Changing one element of a tree

An element is picked by its tag and by its place among those with the tag, in document order and
from 0. It is changed together with what stands behind it in its row, and the rest of the tree stays
(`Node.changeBelow`). Along a row the place is counted down by what each node holds, until the node
is found that the element is, or is below. So the element that is changed is the one that a search
by the tag finds at that place (`exists_changeIn_eq`).
-/

namespace LoadPlan.Xml

/-- A node with other content; a text has none. -/
def Node.mapContent (f : List Node → List Node) : Node → Node
  | .element tag attributes content => .element tag attributes (f content)
  | .text s => .text s

section Change

variable (wanted : String) (change : Node → List Node → List Node)

mutual

/-- A node with a change to the element at a place among those below it that have a tag. -/
def Node.changeBelow : Node → Nat → Node
  | .element tag attributes content, k => .element tag attributes (changeIn content k)
  | .text s, _ => .text s

/-- Nodes in a row with a change to the element at a place among those with a tag, in the row or
below it. The change is given the element and what stands behind it. -/
def changeIn : List Node → Nat → List Node
  | [], _ => []
  | n :: rest, k =>
    if (n.withTag wanted).length ≤ k then n :: changeIn rest (k - (n.withTag wanted).length)
    else if n.tag == wanted then
      match k with
      | 0 => change n rest
      | k + 1 => n.changeBelow k :: rest
    else n.changeBelow k :: rest

end

variable {wanted change} {n : Node} {rest : List Node} {k : Nat}

/-- The element is not at the node or below it: the search goes on behind the node. -/
theorem changeIn_later (h : (n.withTag wanted).length ≤ k) :
    changeIn wanted change (n :: rest) k =
      n :: changeIn wanted change rest (k - (n.withTag wanted).length) := by
  rw [changeIn.eq_def]
  exact if_pos h

/-- The element is the node itself. -/
theorem changeIn_here (helement : n.isElement = true) (htag : n.tag = wanted) :
    changeIn wanted change (n :: rest) 0 = change n rest := by
  have hfound : ¬ (n.withTag wanted).length ≤ 0 := by
    simp [Node.withTag_eq wanted helement, htag]
  rw [changeIn.eq_def]
  simp only [if_neg hfound, htag, beq_self_eq_true, if_true]

/-- The element is below the node, which does not count itself. -/
theorem changeIn_below (h : k < (n.withTag wanted).length) (htag : n.tag ≠ wanted) :
    changeIn wanted change (n :: rest) k = n.changeBelow wanted change k :: rest := by
  rw [changeIn.eq_def]
  simp only [if_neg (Nat.not_le.mpr h), beq_iff_eq, if_neg htag]

/-- The element is below the node, which is the first to count. -/
theorem changeIn_below_same (h : k + 1 < (n.withTag wanted).length) (htag : n.tag = wanted) :
    changeIn wanted change (n :: rest) (k + 1) = n.changeBelow wanted change k :: rest := by
  rw [changeIn.eq_def]
  simp only [if_neg (Nat.not_le.mpr h), htag, beq_self_eq_true, if_true]

end Change

/-- The element that is changed is the one found at the place, and around it nothing changes. -/
theorem exists_changeIn_eq (wanted : String) (ns : List Node) {k : Nat} {found : Node}
    (hfound : (Node.withTagIn wanted ns)[k]? = some found) :
    ∃ (around : List Node → List Node) (rest : List Node), ns = around (found :: rest) ∧
      ∀ change, changeIn wanted change ns k = around (change found rest) := by
  match ns with
  | [] => simp [Node.withTagIn] at hfound
  | .text s :: rest =>
    obtain ⟨around, behind, hrest, hchange⟩ := exists_changeIn_eq wanted rest (k := k)
      (by simpa [Node.withTagIn, Node.withTag] using hfound)
    refine ⟨fun ms => .text s :: around ms, behind, congrArg _ hrest, fun change => ?_⟩
    rw [changeIn_later (Nat.zero_le k)]
    exact congrArg (Node.text s :: ·) (hchange change)
  | .element tag attributes content :: rest =>
    rw [Node.withTagIn] at hfound
    by_cases hlater : ((Node.element tag attributes content).withTag wanted).length ≤ k
    · rw [List.getElem?_append_right hlater] at hfound
      obtain ⟨around, behind, hrest, hchange⟩ := exists_changeIn_eq wanted rest hfound
      refine ⟨fun ms => .element tag attributes content :: around ms, behind, congrArg _ hrest,
        fun change => ?_⟩
      rw [changeIn_later hlater, hchange]
    have hlt := Nat.not_le.mp hlater
    rw [List.getElem?_append_left hlt, Node.withTag] at hfound
    by_cases htag : tag = wanted
    · rw [if_pos (beq_iff_eq.mpr htag)] at hfound
      cases k with
      | zero =>
        obtain rfl : Node.element tag attributes content = found := by simpa using hfound
        exact ⟨id, rest, rfl, fun change => changeIn_here rfl htag⟩
      | succ k =>
        obtain ⟨around, behind, hcontent, hchange⟩ :=
          exists_changeIn_eq wanted content (k := k) (by simpa using hfound)
        refine ⟨fun ms => .element tag attributes (around ms) :: rest, behind,
          congrArg (Node.element tag attributes · :: rest) hcontent, fun change => ?_⟩
        rw [changeIn_below_same hlt htag, Node.changeBelow, hchange]
    · rw [if_neg (by simpa using htag)] at hfound
      obtain ⟨around, behind, hcontent, hchange⟩ := exists_changeIn_eq wanted content hfound
      refine ⟨fun ms => .element tag attributes (around ms) :: rest, behind,
        congrArg (Node.element tag attributes · :: rest) hcontent, fun change => ?_⟩
      rw [changeIn_below hlt htag, Node.changeBelow, hchange]

end LoadPlan.Xml
