import LoadPlan.Xml.Doctype
import LoadPlan.Xml.Printer
import Mathlib

/-!
# Reading the pieces of a written document

Names, references and values of attributes are read back as they were written, whatever follows
them. A table of escapes (`Escapes`) may keep any character but those that would end a piece; what
stands for the others are references to them, which `blankEscape?` lists in full.
-/

namespace LoadPlan.Xml

/-! ## Names -/

theorem isNameChar_of_isNameStart {c : Char} (h : isNameStart c = true) : isNameChar c = true := by
  simp [isNameChar, h]

theorem isNameChar_of_mem {name : List Char} (h : isPlainName name = true) :
    ∀ c ∈ name, isNameChar c = true := by
  cases name with
  | nil => simp [isPlainName] at h
  | cons c rest =>
    simp only [isPlainName, Bool.and_eq_true, List.all_eq_true] at h
    intro d hd
    rcases List.mem_cons.mp hd with rfl | hd
    · exact isNameChar_of_isNameStart h.1
    · exact h.2 d hd

theorem takeName_append {name : List Char} (h : isPlainName name = true) {c : Char}
    (hc : isNameChar c = false) (rest : List Char) :
    takeName (name ++ c :: rest) = .ok (name, c :: rest) := by
  cases name with
  | nil => simp [isPlainName] at h
  | cons d name =>
    simp only [isPlainName, Bool.and_eq_true, List.all_eq_true] at h
    have htake : (name ++ c :: rest).takeWhile isNameChar = name := by
      rw [List.takeWhile_append_of_pos h.2, List.takeWhile_cons_of_neg (by simp [hc]),
        List.append_nil]
    have hdrop : (name ++ c :: rest).dropWhile isNameChar = c :: rest := by
      rw [List.dropWhile_append_of_pos h.2, List.dropWhile_cons_of_neg (by simp [hc])]
    rw [List.cons_append, takeName, if_pos h.1, htake, hdrop]

theorem takeQualified_append {name : List Char} (h : isPlainName name = true) {c : Char}
    (hc : isNameChar c = false) (hcolon : c ≠ ':') (rest : List Char) :
    takeQualified (name ++ c :: rest) = .ok (name, c :: rest) := by
  unfold takeQualified
  rw [takeName_append h hc]
  split
  · simp_all
  · simp_all
  · next h => exact h.symm

/-- A plain name begins with a character that is neither white space nor a mark. -/
theorem exists_head_of_isPlainName {name : List Char} (h : isPlainName name = true) :
    ∃ c rest, name = c :: rest ∧ isNameStart c = true := by
  cases name with
  | nil => simp [isPlainName] at h
  | cons c rest => exact ⟨c, rest, rfl, by simp_all [isPlainName]⟩

theorem ne_of_isNameStart {c d : Char} (h : isNameStart c = true) (hd : isNameStart d = false) :
    c ≠ d := by
  rintro rfl
  simp [h] at hd

theorem skipSpace_of_isNameStart {c : Char} (h : isNameStart c = true) (rest : List Char) :
    skipSpace (c :: rest) = c :: rest := by
  have hspace : isSpace c = false := by
    simp [isSpace, ne_of_isNameStart h (d := ' ') (by decide),
      ne_of_isNameStart h (d := '\t') (by decide), ne_of_isNameStart h (d := '\n') (by decide),
      ne_of_isNameStart h (d := '\r') (by decide)]
  rw [skipSpace, List.dropWhile_cons_of_neg (by simp [hspace])]

/-! ## Escapes -/

/-- Characters with each of some written as something else. -/
def escaped (table : Char → Option String) (cs : List Char) : List Char :=
  cs.flatMap fun c => ((table c).getD (String.singleton c)).toList

@[simp]
theorem escaped_nil (table : Char → Option String) : escaped table [] = [] :=
  rfl

theorem escaped_cons_kept {table : Char → Option String} {c : Char} (h : table c = none)
    (cs : List Char) : escaped table (c :: cs) = c :: escaped table cs := by
  simp [escaped, h]

theorem escaped_cons_written {table : Char → Option String} {c : Char} {s : String}
    (h : table c = some s) (cs : List Char) :
    escaped table (c :: cs) = s.toList ++ escaped table cs := by
  simp [escaped, h]

theorem escaped_append (table : Char → Option String) (cs ds : List Char) :
    escaped table (cs ++ ds) = escaped table cs ++ escaped table ds :=
  List.flatMap_append

@[simp]
theorem escapeWith_toList (table : Char → Option String) (s : String) :
    (escapeWith table s).toList = escaped table s.toList := by
  simp [escapeWith, escaped, String.toList_join, List.flatMap_map]

/-- A table that writes references to what they stand for, and keeps no character that is markup or
ends what is written. -/
structure Escapes (mark : Char) (table : Char → Option String) : Prop where
  known : ∀ c s, table c = some s → blankEscape? c = some s
  opening : (table '<').isSome
  reference : (table '&').isSome
  closing : (table mark).isSome

theorem textEscape_escapes : Escapes '>' textEscape? where
  known c s h := by
    unfold textEscape? at h
    split at h <;> simp_all [blankEscape?, attributeEscape?, textEscape?]
  opening := rfl
  reference := rfl
  closing := rfl

theorem attributeEscape_known {c : Char} {s : String} (h : attributeEscape? c = some s) :
    blankEscape? c = some s := by
  unfold attributeEscape? at h
  split at h
  · simpa [blankEscape?, attributeEscape?] using h
  · exact textEscape_escapes.known c s h

theorem attributeEscape_escapes : Escapes '"' attributeEscape? where
  known _ _ := attributeEscape_known
  opening := rfl
  reference := rfl
  closing := rfl

theorem blankEscape_escapes : Escapes '"' blankEscape? where
  known _ _ h := h
  opening := rfl
  reference := rfl
  closing := rfl

theorem Escapes.ne_of_kept {mark : Char} {table : Char → Option String} (h : Escapes mark table)
    {c : Char} (hc : table c = none) : c ≠ '<' ∧ c ≠ '&' ∧ c ≠ mark := by
  refine ⟨?_, ?_, ?_⟩ <;> rintro rfl
  · simpa [hc] using h.opening
  · simpa [hc] using h.reference
  · simpa [hc] using h.closing

/-! ## References -/

/-- The character that a reference stands for. -/
def Piece.referent? : Piece → Option Char
  | .char _ => none
  | .number c _ => c
  | .entity name _ => predefined? name

/-- What is written for a character is a reference to it, which is read as such. -/
theorem exists_reference {c : Char} {s : String} (h : blankEscape? c = some s) :
    ∃ body, s.toList = '&' :: body ∧ ∀ place rest, ∃ p : Piece,
      takeReference place (body ++ rest) = .ok (p, rest) ∧ p.referent? = some c := by
  unfold blankEscape? attributeEscape? textEscape? at h
  split at h
  · cases h
    exact ⟨"#13;".toList, rfl, fun place rest => ⟨.number (some '\r') place, rfl, rfl⟩⟩
  · cases h
    exact ⟨"#10;".toList, rfl, fun place rest => ⟨.number (some '\n') place, rfl, rfl⟩⟩
  · cases h
    exact ⟨"#09;".toList, rfl, fun place rest => ⟨.number (some '\t') place, rfl, rfl⟩⟩
  · split at h
    · cases h
      exact ⟨"quot;".toList, rfl, fun place rest => ⟨.entity "quot".toList place, rfl, rfl⟩⟩
    · split at h
      · cases h
        exact ⟨"amp;".toList, rfl, fun place rest => ⟨.entity "amp".toList place, rfl, rfl⟩⟩
      · cases h
        exact ⟨"lt;".toList, rfl, fun place rest => ⟨.entity "lt".toList place, rfl, rfl⟩⟩
      · cases h
        exact ⟨"gt;".toList, rfl, fun place rest => ⟨.entity "gt".toList place, rfl, rfl⟩⟩
      · cases h

end LoadPlan.Xml
