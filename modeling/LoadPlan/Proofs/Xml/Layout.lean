import LoadPlan.Proofs.Xml.Written

/-!
# The two layouts

Both layouts are ways to write a tree with nothing between its parts: the compact one writes the
tree itself (`compact_toList`), the indented one the tree with the line breaks put in as texts
(`indented_toList`). A tree whose elements hold one text or elements only is sound with its line
breaks when it is sound without them.
-/

namespace LoadPlan.Xml

open Text (unifyLineEnds)

/-- The compact layout: blanks of attributes are written as references. -/
def compactStyle : Style where
  inText := textEscape?
  inAttribute := blankEscape?
  emptyEnd := [' ', '/', '>']
  valueRead := id
  inText_escapes := textEscape_escapes
  inText_feed := rfl
  inText_return := rfl
  inAttribute_escapes := blankEscape_escapes
  inAttribute_reads := blankEscape_readsValues
  emptyEnd_ends := .spaced

/-- The indented layout: blanks of attributes are kept. -/
def indentedStyle : Style where
  inText := attributeEscape?
  inAttribute := attributeEscape?
  emptyEnd := ['/', '>']
  valueRead := blanksAsSpaces
  inText_escapes := { attributeEscape_escapes with closing := rfl }
  inText_feed := rfl
  inText_return := rfl
  inAttribute_escapes := attributeEscape_escapes
  inAttribute_reads := attributeEscape_readsValues
  emptyEnd_ends := .empty

mutual

/-- The compact layout of a tree. -/
@[simp]
theorem compact_toList (n : Node) : n.compact.toList = compactStyle.write n := by
  match n with
  | .text s => simp [Node.compact, Style.write, compactStyle]
  | .element tag attributes [] =>
    simp [Node.compact, Style.write, compactStyle]
  | .element tag attributes (m :: content) =>
    simp only [Node.compact, Style.write, String.toList_append, printAttributes_toList,
      compactAll_toList (m :: content), List.append_assoc]
    rfl

theorem compactAll_toList (ns : List Node) : (compactAll ns).toList = compactStyle.writeAll ns := by
  match ns with
  | [] => simp [compactAll, Style.writeAll]
  | n :: ns =>
    rw [compactAll, String.toList_append, compact_toList n, compactAll_toList ns, Style.writeAll]

end

/-! ## Line breaks -/

/-- A line break before something at a depth. -/
def lineBreak (depth : Nat) : String :=
  "\n" ++ indentation depth

mutual

/-- A tree with the line breaks that the indented layout puts into it. -/
def Node.laidOut (depth : Nat) : Node → Node
  | .text s => .text s
  | .element tag attributes [] => .element tag attributes []
  | .element tag attributes [.text s] => .element tag attributes [.text s]
  | .element tag attributes (n :: rest) =>
    .element tag attributes (laidOutAll (depth + 1) (n :: rest) ++ [.text (lineBreak depth)])

/-- Trees with a line break before each of them. -/
def laidOutAll (depth : Nat) : List Node → List Node
  | [] => []
  | n :: rest => .text (lineBreak depth) :: n.laidOut depth :: laidOutAll depth rest

end

theorem lineBreak_toList (depth : Nat) :
    (lineBreak depth).toList = '\n' :: List.replicate (2 * depth) ' ' := by
  simp [lineBreak, indentation]

@[simp]
theorem escaped_lineBreak (depth : Nat) :
    escaped attributeEscape? (lineBreak depth).toList = '\n' :: (indentation depth).toList := by
  rw [escaped_of_kept]
  · simp [lineBreak]
  · intro c hc
    rw [lineBreak_toList, List.mem_cons, List.mem_replicate] at hc
    rcases hc with rfl | ⟨-, rfl⟩ <;> rfl

/-- Content that is not one text. -/
def IsSpread (content : List Node) : Prop :=
  content ≠ [] ∧ ∀ s, content ≠ [.text s]

theorem Node.laidOut_of_spread (depth : Nat) (tag : String) (attributes : List (String × String))
    {content : List Node} (h : IsSpread content) :
    (Node.element tag attributes content).laidOut depth =
      .element tag attributes (laidOutAll (depth + 1) content ++ [.text (lineBreak depth)]) := by
  obtain ⟨n, rest, rfl⟩ := List.exists_cons_of_ne_nil h.1
  rw [Node.laidOut]
  rintro s rfl rfl
  exact h.2 s rfl

/-- What laid out content is written as. -/
theorem write_laidOut_of_spread (depth : Nat) (tag : String) (attributes : List (String × String))
    {content : List Node} (h : IsSpread content) :
    indentedStyle.write ((Node.element tag attributes content).laidOut depth) =
      '<' :: (tag.toList ++ (writeAttributes attributeEscape? attributes ++
        '>' :: (indentedStyle.writeAll (laidOutAll (depth + 1) content) ++
          '\n' :: ((indentation depth).toList ++ '<' :: '/' :: (tag.toList ++ ['>']))))) := by
  rw [Node.laidOut_of_spread depth tag attributes h, Style.write_of_content _ _ _ (by simp),
    Style.writeAll_append]
  simp [Style.writeAll, Style.write, indentedStyle]

theorem indented_of_spread (depth : Nat) (tag : String) (attributes : List (String × String))
    {content : List Node} (h : IsSpread content) :
    ((Node.element tag attributes content).indented depth).toList =
      (indentation depth).toList ++ '<' :: (tag.toList ++
        (writeAttributes attributeEscape? attributes ++
          '>' :: '\n' :: ((indentedAll (depth + 1) content).toList ++
            ((indentation depth).toList ++ '<' :: '/' :: (tag.toList ++ ['>', '\n']))))) := by
  obtain ⟨n, rest, rfl⟩ := List.exists_cons_of_ne_nil h.1
  rw [Node.indented]
  · simp
  · rintro s rfl rfl
    exact h.2 s rfl

theorem indented_of_inside (depth : Nat) (tag : String) (attributes : List (String × String))
    {content : List Node} (h : IsSpread content)
    (hinside : '\n' :: (indentedAll (depth + 1) content).toList =
      indentedStyle.writeAll (laidOutAll (depth + 1) content) ++ ['\n']) :
    ((Node.element tag attributes content).indented depth).toList =
      (indentation depth).toList ++
        (indentedStyle.write ((Node.element tag attributes content).laidOut depth) ++ ['\n']) := by
  have hcons : ∀ rest, '\n' :: ((indentedAll (depth + 1) content).toList ++ rest) =
      indentedStyle.writeAll (laidOutAll (depth + 1) content) ++ '\n' :: rest := by
    intro rest
    rw [← List.cons_append, hinside, List.append_assoc]
    rfl
  rw [indented_of_spread depth tag attributes h, write_laidOut_of_spread depth tag attributes h,
    hcons]
  simp

mutual

/-- The indented layout of a tree. -/
theorem indented_toList (depth : Nat) (n : Node) : (n.indented depth).toList =
    (indentation depth).toList ++ (indentedStyle.write (n.laidOut depth) ++ ['\n']) := by
  match n with
  | .text s => simp [Node.indented, Node.laidOut, Style.write, indentedStyle]
  | .element tag attributes [] =>
    simp [Node.indented, Node.laidOut, Style.write, indentedStyle]
  | .element tag attributes [.text s] =>
    simp [Node.indented, Node.laidOut, Style.write, Style.writeAll, indentedStyle]
  | .element tag attributes [.element tag' attributes' content] =>
    have h := indentedAll_toList (depth + 1) [.element tag' attributes' content]
    exact indented_of_inside depth tag attributes ⟨by simp, by simp⟩ h
  | .element tag attributes (m :: m' :: content) =>
    have h := indentedAll_toList (depth + 1) (m :: m' :: content)
    exact indented_of_inside depth tag attributes ⟨by simp, by simp⟩ h

theorem indentedAll_toList (depth : Nat) (ns : List Node) :
    '\n' :: (indentedAll depth ns).toList =
      indentedStyle.writeAll (laidOutAll depth ns) ++ ['\n'] := by
  match ns with
  | [] => simp [indentedAll, laidOutAll, Style.writeAll]
  | n :: ns =>
    rw [indentedAll, String.toList_append, indented_toList depth n, laidOutAll, Style.writeAll,
      Style.writeAll, Style.write]
    simp only [List.append_assoc, List.cons_append, List.nil_append,
      indentedAll_toList depth ns]
    simp [indentedStyle]

end

/-! ## Soundness with line breaks -/

mutual

/-- A tree whose elements hold one text or elements only. -/
def Node.Tidy : Node → Prop
  | .text _ => True
  | .element _ _ content =>
    (∃ s, content = [.text s]) ∨ (∀ n ∈ content, n.isElement = true) ∧ TidyAll content

/-- Trees whose elements hold one text or elements only. -/
def TidyAll : List Node → Prop
  | [] => True
  | n :: rest => n.Tidy ∧ TidyAll rest

end

theorem tidyAll_iff {ns : List Node} : TidyAll ns ↔ ∀ n ∈ ns, n.Tidy := by
  induction ns with
  | nil => simp [TidyAll]
  | cons n ns ih => simp [TidyAll, ih]

/-- The content of a tidy element is empty, one text or spread over lines. -/
theorem Node.Tidy.cases {tag : String} {attributes : List (String × String)} {content : List Node}
    (h : (Node.element tag attributes content).Tidy) : content = [] ∨ (∃ s, content = [.text s]) ∨
      IsSpread content ∧ (∀ n ∈ content, n.isElement = true) ∧ TidyAll content := by
  rw [Node.Tidy] at h
  obtain ⟨s, hs⟩ | ⟨helements, htidy⟩ := h
  · exact .inr (.inl ⟨s, hs⟩)
  · by_cases hempty : content = []
    · exact .inl hempty
    · refine .inr (.inr ⟨⟨hempty, ?_⟩, helements, htidy⟩)
      rintro s rfl
      simpa [Node.isElement] using helements (.text s) (by simp)

@[simp]
theorem Node.laidOut_isElement (depth : Nat) (n : Node) :
    (n.laidOut depth).isElement = n.isElement := by
  fun_cases Node.laidOut depth n <;> rfl

theorem lineBreak_sound (depth : Nat) : (Node.text (lineBreak depth)).Sound := by
  refine ⟨by simp [lineBreak], fun c hc => ?_⟩
  rw [lineBreak_toList, List.mem_cons, List.mem_replicate] at hc
  rcases hc with rfl | ⟨-, rfl⟩ <;> rfl

mutual

theorem Node.laidOut_sound (depth : Nat) (n : Node) (htidy : n.Tidy) (hsound : n.Sound) :
    (n.laidOut depth).Sound := by
  match n, htidy, hsound with
  | .text s, _, hsound => simpa [Node.laidOut] using hsound
  | .element tag attributes content, htidy, hsound =>
    obtain rfl | ⟨s, rfl⟩ | ⟨hspread, helements, hall⟩ := htidy.cases
    · simpa [Node.laidOut] using hsound
    · simpa [Node.laidOut] using hsound
    · rw [Node.laidOut_of_spread depth tag attributes hspread]
      exact ⟨hsound.1, hsound.2.1,
        laidOutAll_sound (depth + 1) depth content helements hall hsound.2.2⟩

theorem laidOutAll_sound (depth depth' : Nat) (ns : List Node)
    (helements : ∀ n ∈ ns, n.isElement = true) (htidy : TidyAll ns) (hsound : SoundAll ns) :
    SoundAll (laidOutAll depth ns ++ [.text (lineBreak depth')]) := by
  match ns, htidy, hsound with
  | [], _, _ => exact ⟨lineBreak_sound depth', .inr (by simp), trivial⟩
  | n :: ns, htidy, hsound =>
    have hn := helements n List.mem_cons_self
    have hrest := laidOutAll_sound depth depth' ns
      (fun m hm => helements m (List.mem_cons_of_mem n hm)) htidy.2 hsound.2.2
    refine ⟨lineBreak_sound depth, .inr ?_, Node.laidOut_sound depth n htidy.1 hsound.1, .inl ?_,
      hrest⟩
    · intro m hm
      obtain rfl : n.laidOut depth = m := Option.some.inj hm
      rw [Node.laidOut_isElement, hn]
    · rw [Node.laidOut_isElement, hn]

end

end LoadPlan.Xml
