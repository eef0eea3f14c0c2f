import LoadPlan.Proofs.Xml.Layout

/-!
# Normal forms of trees

Two things are lost when a tree is laid out, written and read: the white space that was put around
its elements, and the line ends of its texts. Dropping white space between elements takes a tree
that was laid out back to what it was (`Node.dropLayout_laidOut`), and what is read does not depend
on how the line ends were written (`Style.readBack_unifyLines`).
-/

namespace LoadPlan.Xml

open Text (unifyLineEnds)

/-! ## Trees without layout -/

/-- A text of white space. -/
def Node.isBlank : Node → Bool
  | .text s => s.toList.all isSpace
  | .element .. => false

mutual

/-- A tree without the white space around the elements that its elements hold. -/
def Node.dropLayout : Node → Node
  | .text s => .text s
  | .element tag attributes content =>
    .element tag attributes (if content.any Node.isElement then dropBlanks content else content)

/-- Trees without the white space around and in them. -/
def dropBlanks : List Node → List Node
  | [] => []
  | n :: rest => if n.isBlank then dropBlanks rest else n.dropLayout :: dropBlanks rest

end

@[simp]
theorem dropBlanks_eq_map (ns : List Node) :
    dropBlanks ns = (ns.filter (!·.isBlank)).map Node.dropLayout := by
  induction ns with
  | nil => rfl
  | cons n ns ih => by_cases h : n.isBlank = true <;> simp [dropBlanks, h, ih]

@[simp]
theorem lineBreak_isBlank (depth : Nat) : (Node.text (lineBreak depth)).isBlank = true := by
  rw [Node.isBlank, lineBreak_toList]
  simp [isSpace]

theorem Node.not_isBlank_of_isElement {n : Node} (h : n.isElement = true) : n.isBlank = false := by
  cases n with
  | element => rfl
  | text => simp [Node.isElement] at h

mutual

/-- Without its layout, a tree that was laid out is what it was. -/
theorem Node.dropLayout_laidOut (depth : Nat) (n : Node) (htidy : n.Tidy) :
    (n.laidOut depth).dropLayout = n := by
  match n, htidy with
  | .text s, _ => rfl
  | .element tag attributes content, htidy =>
    obtain rfl | ⟨s, rfl⟩ | ⟨hspread, helements, hall⟩ := htidy.cases
    · rfl
    · rfl
    · rw [Node.laidOut_of_spread depth tag attributes hspread, Node.dropLayout,
        dropBlanks_laidOutAll (depth + 1) depth content helements hall, if_pos]
      obtain ⟨m, ms, rfl⟩ := List.exists_cons_of_ne_nil hspread.1
      simp [laidOutAll, helements m]

theorem dropBlanks_laidOutAll (depth depth' : Nat) (ns : List Node)
    (helements : ∀ n ∈ ns, n.isElement = true) (htidy : TidyAll ns) :
    dropBlanks (laidOutAll depth ns ++ [.text (lineBreak depth')]) = ns := by
  match ns, htidy with
  | [], _ => simp [laidOutAll]
  | n :: ns, htidy =>
    have hn : (n.laidOut depth).isBlank = false := Node.not_isBlank_of_isElement (by
      rw [Node.laidOut_isElement, helements n List.mem_cons_self])
    rw [laidOutAll, List.cons_append, List.cons_append, dropBlanks, if_pos (lineBreak_isBlank _),
      dropBlanks, if_neg (by simp [hn]), Node.dropLayout_laidOut depth n htidy.1,
      dropBlanks_laidOutAll depth depth' ns
        (fun m hm => helements m (List.mem_cons_of_mem n hm)) htidy.2]

end

@[simp]
theorem all_isSpace_unifyLineEnds (cs : List Char) :
    (unifyLineEnds cs).all isSpace = cs.all isSpace := by
  fun_induction unifyLineEnds cs <;> simp_all [isSpace]

section ReadBack

variable (σ : Style)

@[simp]
theorem Style.readBack_isBlank (n : Node) : (σ.readBack n).isBlank = n.isBlank := by
  cases n with
  | element => rfl
  | text s => simp [Style.readBack, Node.isBlank]

mutual

/-- White space between elements is read as white space, and nothing else is. -/
theorem Style.dropLayout_readBack (n : Node) :
    (σ.readBack n).dropLayout = σ.readBack n.dropLayout := by
  match n with
  | .text s => rfl
  | .element tag attributes content =>
    have hany : (σ.readBackAll content).any Node.isElement = content.any Node.isElement := by
      simp [Function.comp_def]
    rw [Node.dropLayout, readBack, readBack, Node.dropLayout, hany]
    split
    · rw [dropBlanks_readBackAll content]
    · rfl

theorem Style.dropBlanks_readBackAll (ns : List Node) :
    dropBlanks (σ.readBackAll ns) = σ.readBackAll (dropBlanks ns) := by
  match ns with
  | [] => rfl
  | n :: ns =>
    rw [readBackAll, dropBlanks, dropBlanks, σ.readBack_isBlank]
    split
    · exact dropBlanks_readBackAll ns
    · rw [readBackAll, dropLayout_readBack n, dropBlanks_readBackAll ns]

end

end ReadBack

/-! ## Line ends -/

theorem unifyLineEnds_of_not_mem {cs : List Char} (h : '\r' ∉ cs) : unifyLineEnds cs = cs := by
  fun_induction unifyLineEnds cs <;> simp_all

theorem not_mem_unifyLineEnds (cs : List Char) : '\r' ∉ unifyLineEnds cs := by
  fun_induction unifyLineEnds cs <;> simp_all [eq_comm]

section UnifyLines

variable (σ : Style)

mutual

/-- Line ends that were made line feeds are read like those that were not. -/
@[simp]
theorem Style.readBack_unifyLines (n : Node) : σ.readBack n.unifyLines = σ.readBack n := by
  match n with
  | .text s =>
    simp [Node.unifyLines, readBack, unifyLineEnds_of_not_mem (not_mem_unifyLineEnds s.toList)]
  | .element tag attributes content =>
    rw [Node.unifyLines, readBack, readBack, readBackAll_unifyLinesAll content]

theorem Style.readBackAll_unifyLinesAll (ns : List Node) :
    σ.readBackAll (unifyLinesAll ns) = σ.readBackAll ns := by
  match ns with
  | [] => rfl
  | n :: ns =>
    rw [unifyLinesAll, readBackAll, readBackAll, readBack_unifyLines n,
      readBackAll_unifyLinesAll ns]

end

end UnifyLines

@[simp]
theorem Node.unifyLines_isElement (n : Node) : n.unifyLines.isElement = n.isElement := by
  cases n <;> rfl

@[simp]
theorem unifyLinesAll_eq_map (ns : List Node) : unifyLinesAll ns = ns.map Node.unifyLines := by
  induction ns with
  | nil => rfl
  | cons n ns ih => simp [unifyLinesAll, ih]

theorem mem_of_mem_unifyLineEnds {cs : List Char} {c : Char} (h : c ∈ unifyLineEnds cs) :
    c ∈ cs ∨ c = '\n' := by
  fun_induction unifyLineEnds cs <;> grind

mutual

theorem Node.unifyLines_sound (n : Node) (h : n.Sound) : n.unifyLines.Sound := by
  match n, h with
  | .text s, h =>
    refine ⟨by simpa using unifyLineEnds_ne_nil (by simpa using h.1), fun c hc => ?_⟩
    obtain hc | rfl := mem_of_mem_unifyLineEnds (by simpa using hc)
    · exact h.2 c hc
    · rfl
  | .element tag attributes content, h =>
    exact ⟨h.1, h.2.1, unifyLinesAll_sound content h.2.2⟩

theorem unifyLinesAll_sound (ns : List Node) (h : SoundAll ns) : SoundAll (unifyLinesAll ns) := by
  match ns, h with
  | [], _ => trivial
  | n :: ns, h =>
    refine ⟨Node.unifyLines_sound n h.1, ?_, unifyLinesAll_sound ns h.2.2⟩
    rw [Node.unifyLines_isElement, unifyLinesAll_eq_map, List.head?_map]
    simpa using h.2.1

end

mutual

theorem Node.unifyLines_tidy (n : Node) (h : n.Tidy) : n.unifyLines.Tidy := by
  match n, h with
  | .text s, _ => trivial
  | .element tag attributes content, h =>
    obtain ⟨s, rfl⟩ | ⟨helements, hall⟩ := h
    · exact .inl ⟨_, rfl⟩
    · refine .inr ⟨fun m hm => ?_, unifyLinesAll_tidy content hall⟩
      rw [unifyLinesAll_eq_map, List.mem_map] at hm
      obtain ⟨n, hn, rfl⟩ := hm
      rw [Node.unifyLines_isElement, helements n hn]

theorem unifyLinesAll_tidy (ns : List Node) (h : TidyAll ns) : TidyAll (unifyLinesAll ns) := by
  match ns, h with
  | [], _ => trivial
  | n :: ns, h => exact ⟨Node.unifyLines_tidy n h.1, unifyLinesAll_tidy ns h.2⟩

end

mutual

/-- The compact layout keeps attributes: only line ends of texts change. -/
theorem compactStyle_readBack (n : Node) : compactStyle.readBack n = n.unifyLines := by
  match n with
  | .text s => rfl
  | .element tag attributes content =>
    rw [Style.readBack, compactStyle_readBackAll content, Node.unifyLines]
    simp [compactStyle, readAttributes]

theorem compactStyle_readBackAll (ns : List Node) :
    compactStyle.readBackAll ns = unifyLinesAll ns := by
  match ns with
  | [] => rfl
  | n :: ns =>
    rw [Style.readBackAll, compactStyle_readBack n, compactStyle_readBackAll ns, unifyLinesAll]

end

/-! ## Trees as they are read -/

mutual

/-- A tree as readers see it: line ends of texts are line feeds, and blanks of attributes are
spaces. -/
def Node.asRead : Node → Node
  | .text s => .text (String.ofList (unifyLineEnds s.toList))
  | .element tag attributes content =>
    .element tag (attributes.map fun a => (a.1, String.ofList (blanksAsSpaces a.2.toList)))
      (asReadAll content)

/-- Trees as readers see them. -/
def asReadAll : List Node → List Node
  | [] => []
  | n :: rest => n.asRead :: asReadAll rest

end

mutual

@[simp]
theorem indentedStyle_readBack (n : Node) : indentedStyle.readBack n = n.asRead := by
  match n with
  | .text s => rfl
  | .element tag attributes content =>
    rw [Style.readBack, indentedStyle_readBackAll content, Node.asRead]
    rfl

theorem indentedStyle_readBackAll (ns : List Node) :
    indentedStyle.readBackAll ns = asReadAll ns := by
  match ns with
  | [] => rfl
  | n :: ns =>
    rw [Style.readBackAll, indentedStyle_readBack n, indentedStyle_readBackAll ns, asReadAll]

end

end LoadPlan.Xml
