import LoadPlan.Proofs.Xml.Pieces

/-!
# Reading tags

A tag that was written with attributes is read back with the same names and with values that spell
what was written (`takeTag_written`). A value is read as pieces, one for each character; `Spells`
says which ones.
-/

namespace LoadPlan.Xml

/-! ## Values -/

/-- The pieces of a value whose characters were written with a table: kept characters as they are,
and references to the others. -/
inductive Spells (table : Char → Option String) : List Piece → List Char → Prop where
  | nil : Spells table [] []
  | kept {c : Char} {pieces : List Piece} {cs : List Char} :
      table c = none → Spells table pieces cs → Spells table (.char c :: pieces) (c :: cs)
  | written {p : Piece} {c : Char} {pieces : List Piece} {cs : List Char} :
      (table c).isSome → p.referent? = some c → Spells table pieces cs →
        Spells table (p :: pieces) (c :: cs)

/-- A written value is read up to its closing quote. -/
theorem takeValue_written {table : Char → Option String} (h : Escapes '"' table)
    (value : List Char) :
    ∀ (fuel rest : List Char), (∀ c ∈ value, isChar c = true) →
      (escaped table value).length < fuel.length →
        ∃ pieces, takeValue '"' fuel (escaped table value ++ '"' :: rest) = .ok (pieces, rest) ∧
          Spells table pieces value := by
  induction value with
  | nil =>
    intro fuel rest _ hfuel
    obtain ⟨f, fuel, rfl⟩ := List.exists_cons_of_length_pos (Nat.zero_lt_of_lt hfuel)
    exact ⟨[], rfl, .nil⟩
  | cons c value ih =>
    intro fuel rest hchar hfuel
    obtain ⟨f, fuel, rfl⟩ := List.exists_cons_of_length_pos (Nat.zero_lt_of_lt hfuel)
    have hvalue : ∀ d ∈ value, isChar d = true := fun d hd => hchar d (List.mem_cons_of_mem c hd)
    cases hc : table c with
    | none =>
      rw [escaped_cons_kept hc] at hfuel ⊢
      obtain ⟨pieces, hread, hspell⟩ := ih fuel rest hvalue (by simpa using hfuel)
      obtain ⟨hlt, hamp, hquote⟩ := h.ne_of_kept hc
      have hkeep : ¬ (c = '<' || !isChar c) = true := by simp [hlt, hchar c List.mem_cons_self]
      refine ⟨.char c :: pieces, ?_, .kept hc hspell⟩
      rw [List.cons_append, takeValue, if_neg hquote, if_neg hamp, if_neg hkeep, hread]
      rfl
    | some s =>
      obtain ⟨body, hbody, href⟩ := exists_reference (h.known c s hc)
      rw [escaped_cons_written hc, hbody, List.cons_append] at hfuel ⊢
      obtain ⟨pieces, hread, hspell⟩ := ih fuel rest hvalue (by simp at hfuel; omega)
      obtain ⟨p, hp, hpc⟩ := href ('&' :: (body ++ (escaped table value ++ '"' :: rest)))
        (escaped table value ++ '"' :: rest)
      refine ⟨p :: pieces, ?_, .written (by simp [hc]) hpc hspell⟩
      rw [List.cons_append, List.append_assoc, takeValue, if_neg (by decide), if_pos rfl]
      simp only [hp]
      rw [hread]
      rfl

/-! ## Attributes -/

/-- Attributes as they are written, each after a space. -/
def writeAttributes (table : Char → Option String) (attributes : List (String × String)) :
    List Char :=
  attributes.flatMap fun a =>
    ' ' :: (a.1.toList ++ '=' :: '"' :: (escaped table a.2.toList ++ ['"']))

@[simp]
theorem printAttributes_toList (table : Char → Option String)
    (attributes : List (String × String)) :
    (printAttributes table attributes).toList = writeAttributes table attributes := by
  simp [printAttributes, writeAttributes, String.toList_join, List.flatMap_map]

/-- Attributes that can be written: their names are plain and distinct, none of them binds a
prefix, and a document may hold the characters of their values. -/
structure AttributesSound (attributes : List (String × String)) : Prop where
  distinct : (attributes.map Prod.fst).Nodup
  named : ∀ a ∈ attributes, isPlainName a.1.toList = true ∧ a.1 ≠ "xmlns"
  chars : ∀ a ∈ attributes, ∀ c ∈ a.2.toList, isChar c = true

theorem AttributesSound.tail {a : String × String} {attributes : List (String × String)}
    (h : AttributesSound (a :: attributes)) : AttributesSound attributes where
  distinct := (List.nodup_cons.mp h.distinct).2
  named b hb := h.named b (List.mem_cons_of_mem a hb)
  chars b hb := h.chars b (List.mem_cons_of_mem a hb)

/-- What is read for an attribute. -/
def Reads (table : Char → Option String) (raw : RawAttribute) (a : String × String) : Prop :=
  raw.name = a.1.toList ∧ Spells table raw.value a.2.toList

theorem takeAttribute_written {table : Char → Option String} (h : Escapes '"' table)
    {a : String × String} (hname : isPlainName a.1.toList = true)
    (hchar : ∀ c ∈ a.2.toList, isChar c = true) (rest : List Char) :
    ∃ raw, Reads table raw a ∧
      takeAttribute (a.1.toList ++ '=' :: '"' :: (escaped table a.2.toList ++ '"' :: rest)) =
        .ok (raw, rest) := by
  obtain ⟨pieces, hread, hspell⟩ := takeValue_written h a.2.toList
    (a.1.toList ++ '=' :: '"' :: (escaped table a.2.toList ++ '"' :: rest)) rest hchar
    (by simp; omega)
  refine ⟨⟨a.1.toList, a.1.toList ++ '=' :: '"' :: (escaped table a.2.toList ++ '"' :: rest),
    pieces⟩, ⟨rfl, hspell⟩, ?_⟩
  unfold takeAttribute
  rw [takeQualified_append hname (by decide) (by decide)]
  show (takeValue '"' _ _).map _ = _
  rw [hread]
  rfl

/-- The end of a tag, whether the tag is the whole element, and what follows it. -/
inductive EndsTag : List Char → Bool → List Char → Prop where
  | opening (rest : List Char) : EndsTag ('>' :: rest) false rest
  | empty (rest : List Char) : EndsTag ('/' :: '>' :: rest) true rest
  | spaced (rest : List Char) : EndsTag (' ' :: '/' :: '>' :: rest) true rest

theorem EndsTag.takeAttributes {ending rest : List Char} {isEmpty : Bool}
    (h : EndsTag ending isEmpty rest) (name : List Char) (done : List RawAttribute) (f : Char)
    (fuel : List Char) :
    takeAttributes name done (f :: fuel) ending = .ok (⟨name, done.reverse, isEmpty⟩, rest) := by
  cases h <;> rfl

/-- A tag's name or attributes are followed by a mark that belongs to no name. -/
theorem EndsTag.exists_mark {ending rest : List Char} {isEmpty : Bool}
    (h : EndsTag ending isEmpty rest) :
    ∃ c more, ending = c :: more ∧ isNameChar c = false ∧ c ≠ ':' := by
  cases h <;> exact ⟨_, _, rfl, by decide, by decide⟩

/-- One attribute is read from a tag, if one follows. -/
theorem takeAttributes_space {c : Char} (hc : isNameStart c = true) (name : List Char)
    (done : List RawAttribute) (f : Char) (fuel rest : List Char) :
    takeAttributes name done (f :: fuel) (' ' :: c :: rest) =
      match takeAttribute (c :: rest) with
      | .error halt => .error halt
      | .ok (a, rest) => takeAttributes name (a :: done) fuel rest := by
  have hgt := ne_of_isNameStart hc (d := '>') (by decide)
  have hslash := ne_of_isNameStart hc (d := '/') (by decide)
  rw [takeAttributes]
  · simp only [show isSpace ' ' = true from rfl, if_true, skipSpace_of_isNameStart hc]
    split
    · simp_all
    · simp_all
    · simp_all
    · rfl
  all_goals simp

theorem takeAttributes_written {table : Char → Option String} (h : Escapes '"' table)
    {ending rest : List Char} {isEmpty : Bool} (hend : EndsTag ending isEmpty rest)
    (name : List Char) (attributes : List (String × String)) :
    ∀ (done : List RawAttribute) (fuel : List Char), AttributesSound attributes →
      attributes.length < fuel.length →
        ∃ raws, List.Forall₂ (Reads table) raws attributes ∧
          takeAttributes name done fuel (writeAttributes table attributes ++ ending) =
            .ok (⟨name, done.reverse ++ raws, isEmpty⟩, rest) := by
  induction attributes with
  | nil =>
    intro done fuel _ hfuel
    obtain ⟨f, fuel, rfl⟩ := List.exists_cons_of_length_pos (Nat.zero_lt_of_lt hfuel)
    exact ⟨[], .nil, by simpa [writeAttributes] using hend.takeAttributes name done f fuel⟩
  | cons a attributes ih =>
    intro done fuel hsound hfuel
    obtain ⟨f, fuel, rfl⟩ := List.exists_cons_of_length_pos (Nat.zero_lt_of_lt hfuel)
    have hname := (hsound.named a List.mem_cons_self).1
    obtain ⟨raw, hraw, hread⟩ := takeAttribute_written h hname
      (hsound.chars a List.mem_cons_self) (writeAttributes table attributes ++ ending)
    obtain ⟨raws, hraws, hrest⟩ := ih (raw :: done) fuel hsound.tail (by simpa using hfuel)
    refine ⟨raw :: raws, .cons hraw hraws, ?_⟩
    obtain ⟨c, more, hcs, hc⟩ := exists_head_of_isPlainName hname
    simp only [writeAttributes, List.flatMap_cons, List.cons_append, List.append_assoc,
      List.nil_append] at hread ⊢
    rw [hcs, List.cons_append] at hread ⊢
    rw [takeAttributes_space hc, hread]
    simpa [writeAttributes] using hrest

/-! ## Tags -/

theorem length_le_writeAttributes (table : Char → Option String)
    (attributes : List (String × String)) :
    attributes.length ≤ (writeAttributes table attributes).length := by
  induction attributes with
  | nil => simp
  | cons a attributes ih =>
    simp only [writeAttributes, List.flatMap_cons, List.length_append, List.length_cons] at ih ⊢
    omega

theorem exists_mark_writeAttributes (table : Char → Option String)
    (attributes : List (String × String)) {ending rest : List Char} {isEmpty : Bool}
    (hend : EndsTag ending isEmpty rest) :
    ∃ c more, writeAttributes table attributes ++ ending = c :: more ∧ isNameChar c = false ∧
      c ≠ ':' := by
  cases attributes with
  | nil => exact hend.exists_mark
  | cons a attributes => exact ⟨' ', _, rfl, by decide, by decide⟩

/-- A written tag is read back with its name and its attributes. -/
theorem takeTag_written {table : Char → Option String} (h : Escapes '"' table)
    {tag ending rest : List Char} {isEmpty : Bool} (htag : isPlainName tag = true)
    {attributes : List (String × String)} (hsound : AttributesSound attributes)
    (hend : EndsTag ending isEmpty rest) :
    ∃ raws, List.Forall₂ (Reads table) raws attributes ∧
      takeTag (tag ++ (writeAttributes table attributes ++ ending)) =
        .ok (⟨tag, raws, isEmpty⟩, rest) := by
  have hfuel : attributes.length <
      (tag ++ (writeAttributes table attributes ++ ending)).length := by
    obtain ⟨c, more, rfl, -, -⟩ := hend.exists_mark
    have := length_le_writeAttributes table attributes
    simp only [List.length_append, List.length_cons]
    omega
  obtain ⟨raws, hraws, hread⟩ := takeAttributes_written h hend tag attributes []
    (tag ++ (writeAttributes table attributes ++ ending)) hsound hfuel
  obtain ⟨c, more, hc, hname, hcolon⟩ := exists_mark_writeAttributes table attributes hend
  refine ⟨raws, hraws, ?_⟩
  unfold takeTag
  rw [hc] at hread ⊢
  rw [takeQualified_append htag hname hcolon]
  exact hread

end LoadPlan.Xml
