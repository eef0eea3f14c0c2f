import LoadPlan.Proofs.Notice
import LoadPlan.Proofs.Xml.Declaration

/-!
# Documents that declare their encoding

A document that is not read is malformed, unless it is refused for the encoding that it declares:
one that is not known, or whose characters have several bytes (`read_refuses_iff`).
-/

namespace LoadPlan.Xml

open Declaration

/-! ## Documents with a declaration -/

theorem skipInstruction_sound {cs rest : List Char} (h : skipInstruction cs = .ok rest) :
    ∃ body, cs = body ++ '?' :: '>' :: rest := by
  fun_induction skipInstruction cs with
  | case1 more =>
    obtain rfl := Except.ok.inj h
    exact ⟨[], rfl⟩
  | case2 => cases h
  | case3 c more _ _ ih =>
    obtain ⟨body, rfl⟩ := ih h
    exact ⟨c :: body, rfl⟩
  | case4 => cases h

theorem skipInstruction_written {body : List Char} (h : ∀ c ∈ body, IsInner c) (rest : List Char) :
    skipInstruction (body ++ '?' :: '>' :: rest) = .ok rest := by
  induction body with
  | nil => rfl
  | cons c body ih =>
    obtain ⟨hchar, hne⟩ := h c List.mem_cons_self
    rw [List.cons_append, skipInstruction, if_pos hchar]
    · exact ih fun d hd => h d (List.mem_cons_of_mem c hd)
    · intro more hc
      exact absurd hc hne

theorem exists_of_startsDeclaration {start : List Char} (h : startsDeclaration start = true) :
    ∃ c more, start = "<?xml".toList ++ c :: more ∧ (isSpace c = true ∨ c = '?') := by
  unfold startsDeclaration at h
  split at h
  · rename_i c more
    exact ⟨c, more, rfl, by simpa using h⟩
  · cases h

/-- The target of a declaration is left behind. -/
theorem takeInstruction_target {c : Char} (hc : isSpace c = true ∨ c = '?') (more : List Char) :
    takeInstruction ("xml".toList ++ c :: more) =
      if c = '?' then
        match more with
        | '>' :: rest => .ok (.declaration, rest)
        | rest => refuse rest
      else (skipInstruction more).map (.declaration, ·) := by
  have hname : isNameChar c = false := by
    obtain hc | rfl := hc
    · simp only [isSpace, Bool.or_eq_true, decide_eq_true_eq] at hc
      obtain ((rfl | rfl) | rfl) | rfl := hc
      all_goals decide
    · decide
  have htarget : isPlainName "xml".toList = true := by decide
  unfold takeInstruction
  rw [takeName_append htarget hname]
  dsimp only
  rw [if_pos (by simpa using hc)]
  rfl

theorem takeInstruction_sound {start rest : List Char} {kind : Instruction}
    (hstart : startsDeclaration start = true)
    (h : takeInstruction (start.drop 2) = .ok (kind, rest)) :
    ∃ said, start = "<?xml".toList ++ (said ++ '?' :: '>' :: rest) := by
  obtain ⟨c, more, rfl, hc⟩ := exists_of_startsDeclaration hstart
  rw [show ("<?xml".toList ++ c :: more).drop 2 = "xml".toList ++ c :: more from rfl,
    takeInstruction_target hc] at h
  split at h
  · subst c
    split at h
    · obtain ⟨-, rfl⟩ := Prod.mk.inj (Except.ok.inj h)
      exact ⟨[], rfl⟩
    · unfold refuse at h
      split at h <;> cases h
  · obtain ⟨after, hafter, hpair⟩ := Except.map_eq_ok.mp h
    obtain ⟨-, rfl⟩ := Prod.mk.inj hpair
    obtain ⟨body, rfl⟩ := skipInstruction_sound hafter
    exact ⟨c :: body, rfl⟩

theorem takeInstruction_written {said name : List Char} (h : NamesEncoding said name)
    (rest : List Char) : takeInstruction ("xml".toList ++ (said ++ '?' :: '>' :: rest)) =
      .ok (.declaration, rest) := by
  obtain ⟨⟨c, more, rfl, hc⟩, hinner⟩ := h.isInner
  rw [List.cons_append, takeInstruction_target (.inl hc),
    if_neg (hinner c List.mem_cons_self).2,
    skipInstruction_written fun d hd => hinner d (List.mem_cons_of_mem c hd)]
  rfl

/-- The characters of a document after a byte order mark, in the encoding that it begins in. -/
def leadingChars (input : List UInt8) : List Char :=
  skipMark ((Encoding.detect input).decode input).chars

/-- A document that begins with a declaration of its encoding. -/
def Declares (input : List UInt8) (name : List Char) : Prop :=
  ∃ said rest, leadingChars input = "<?xml".toList ++ (said ++ '?' :: '>' :: rest) ∧
    NamesEncoding said name

/-! ## Documents that are refused -/

/-- A document that is refused because it is not well-formed. -/
def Error.IsMalformed (e : Error) : Prop :=
  ∃ problem line column, e = .malformed problem line column

/-- The error for what an encoding is named, unless that can be read or is found to be wrong. -/
def Named.refusal? : Named → Option Error
  | .unknown => some .noSuchEncoding
  | .multibyte => some .multibyteEncoding
  | _ => none

theorem Named.not_isMalformed {named : Named} {e : Error} (h : named.refusal? = some e) :
    ¬e.IsMalformed := by
  rintro ⟨problem, line, column, rfl⟩
  cases named <;> cases h

theorem isMalformed_of_placedIn {text : Decoded} {result : Except Stop Node} {e : Error}
    (h : placedIn text result = .error e) : e.IsMalformed := by
  obtain ⟨stop, -, rfl⟩ := Except.mapError_eq_error.mp h
  exact ⟨_, _, _, rfl⟩

section AfterDeclaration

variable {input : List UInt8} {encoding : Encoding} {text : Decoded} {d : Declaration}
  {tail rest : List Char}

theorem refusal_of_afterDeclaration {e : Error}
    (h : afterDeclaration input encoding text d tail rest = .error e) (he : ¬e.IsMalformed) :
    ∃ name place, d.encoding = some (name, place) ∧
      (Encoding.ofName name).refusal? = some e := by
  unfold afterDeclaration at h
  dsimp only at h
  split at h
  · exact absurd (isMalformed_of_placedIn h) he
  rename_i name place hname
  refine ⟨name, place, hname, ?_⟩
  split at h
  · rename_i hnamed
    rw [hnamed]
    exact congrArg some (Except.error.inj h)
  · rename_i hnamed
    rw [hnamed]
    exact congrArg some (Except.error.inj h)
  · exact absurd (isMalformed_of_placedIn h) he
  · split at h
    · exact absurd (isMalformed_of_placedIn h) he
    · exact absurd (isMalformed_of_placedIn h) he
  · split at h
    · exact absurd (isMalformed_of_placedIn h) he
    split at h
    · exact absurd (isMalformed_of_placedIn h) he
    · exact absurd (isMalformed_of_placedIn h) he

theorem afterDeclaration_of_refusal {name place : List Char} {e : Error}
    (hname : d.encoding = some (name, place))
    (h : (Encoding.ofName name).refusal? = some e) :
    afterDeclaration input encoding text d tail rest = .error e := by
  unfold afterDeclaration
  rw [hname]
  dsimp only
  cases hnamed : Encoding.ofName name with
  | unknown =>
    rw [hnamed] at h
    exact congrArg Except.error (Option.some.inj h)
  | multibyte =>
    rw [hnamed] at h
    exact congrArg Except.error (Option.some.inj h)
  | _ =>
    rw [hnamed] at h
    cases h

end AfterDeclaration

/-- Half of a byte order mark is no declaration. -/
theorem startsDeclaration_of_isHalfMark {input : List UInt8}
    (h : Encoding.isHalfMark input = true) : startsDeclaration (leadingChars input) = false := by
  unfold Encoding.isHalfMark at h
  split at h
  · simp only [Bool.or_eq_true, decide_eq_true_eq] at h
    obtain ((rfl | rfl) | rfl) | rfl := h
    all_goals rfl
  · cases h

/-- What is read of a document that begins with a declaration. -/
theorem read_of_said {input : List UInt8} {said rest : List Char} {kind : Instruction}
    (hinput : leadingChars input = "<?xml".toList ++ (said ++ '?' :: '>' :: rest))
    (hstart : startsDeclaration (leadingChars input) = true)
    (htake : takeInstruction ((leadingChars input).drop 2) = .ok (kind, rest)) :
    read input =
      match ofChars said with
      | .error place =>
        placedIn ((Encoding.detect input).decode input)
          (.error ⟨.malformedDeclaration, place ++ '?' :: '>' :: rest⟩)
      | .ok d =>
        afterDeclaration input (Encoding.detect input) ((Encoding.detect input).decode input) d
          ('?' :: '>' :: rest) rest := by
  have hhalf : Encoding.isHalfMark input = false := by
    rw [Bool.eq_false_iff]
    intro hhalf
    rw [startsDeclaration_of_isHalfMark hhalf] at hstart
    cases hstart
  have hsaid : ((leadingChars input).drop 5).take
      ((leadingChars input).length - 5 - ('?' :: '>' :: rest).length) = said := by
    rw [hinput]
    simp
  unfold leadingChars at hstart htake hsaid
  unfold read
  rw [hhalf, if_neg Bool.false_ne_true]
  dsimp only
  rw [hstart, htake]
  dsimp only [piece, Except.mapError]
  rw [hsaid]
  rfl

/-- A document is refused for its encoding exactly if it declares one that is. -/
theorem read_refuses_iff (input : List UInt8) (e : Error) :
    read input = .error e ∧ ¬e.IsMalformed ↔
      ∃ name, Declares input name ∧ (Encoding.ofName name).refusal? = some e := by
  constructor
  · rintro ⟨h, he⟩
    have hread := h
    unfold read at h
    split at h
    · obtain rfl := Except.error.inj h
      exact absurd ⟨_, _, _, rfl⟩ he
    dsimp only at h
    split at h
    · exact absurd (isMalformed_of_placedIn h) he
    rename_i hstart
    split at h
    · exact absurd (isMalformed_of_placedIn h) he
    rename_i kind rest hpiece
    have hstart' : startsDeclaration (leadingChars input) = true := by
      unfold leadingChars
      simpa using hstart
    have htake : takeInstruction ((leadingChars input).drop 2) = .ok (kind, rest) :=
      Except.mapError_eq_ok.mp hpiece
    obtain ⟨said, hinput⟩ := takeInstruction_sound hstart' htake
    rw [read_of_said hinput hstart' htake] at hread
    split at hread
    · exact absurd (isMalformed_of_placedIn hread) he
    rename_i d hd
    obtain ⟨name, place, hname, hrefusal⟩ := refusal_of_afterDeclaration hread he
    exact ⟨name, ⟨said, rest, hinput, (ofChars_names_iff said name).mp ⟨d, place, hd, hname⟩⟩,
      hrefusal⟩
  · rintro ⟨name, ⟨said, rest, hinput, hsaid⟩, hrefusal⟩
    refine ⟨?_, Named.not_isMalformed hrefusal⟩
    obtain ⟨d, place, hd, hname⟩ := (ofChars_names_iff said name).mpr hsaid
    have hstart : startsDeclaration (leadingChars input) = true := by
      obtain ⟨⟨c, more, rfl, hc⟩, -⟩ := hsaid.isInner
      rw [hinput]
      simp [startsDeclaration, hc]
    have htake : takeInstruction ((leadingChars input).drop 2) = .ok (.declaration, rest) := by
      rw [hinput]
      exact takeInstruction_written hsaid rest
    rw [read_of_said hinput hstart htake, hd]
    exact afterDeclaration_of_refusal hname hrefusal

/-- A document declares no encoding that is refused exactly if it is read or malformed. -/
theorem read_isMalformed_iff (input : List UInt8) :
    (∀ e, read input = .error e → e.IsMalformed) ↔
      ∀ name, Declares input name → (Encoding.ofName name).refusal? = none := by
  constructor
  · intro h name hname
    rw [Option.eq_none_iff_forall_ne_some]
    intro e he
    obtain ⟨hread, hplain⟩ := (read_refuses_iff input e).mpr ⟨name, hname, he⟩
    exact hplain (h e hread)
  · intro h e he
    by_cases hplain : e.IsMalformed
    · exact hplain
    · obtain ⟨name, hname, hrefusal⟩ := (read_refuses_iff input e).mp ⟨he, hplain⟩
      rw [h name hname] at hrefusal
      cases hrefusal

theorem read_unknown_iff (input : List UInt8) : read input = .error .noSuchEncoding ↔
    ∃ name, Declares input name ∧ Encoding.ofName name = .unknown := by
  have hrefusal (named : Named) : named.refusal? = some .noSuchEncoding ↔ named = .unknown := by
    cases named <;> simp [Named.refusal?]
  have hplain : ¬Error.noSuchEncoding.IsMalformed :=
    Named.not_isMalformed (show Named.refusal? .unknown = _ from rfl)
  simp only [← hrefusal, ← read_refuses_iff, hplain, not_false_eq_true, and_true]

theorem read_multibyte_iff (input : List UInt8) : read input = .error .multibyteEncoding ↔
    ∃ name, Declares input name ∧ Encoding.ofName name = .multibyte := by
  have hrefusal (named : Named) : named.refusal? = some .multibyteEncoding ↔
      named = .multibyte := by
    cases named <;> simp [Named.refusal?]
  have hplain : ¬Error.multibyteEncoding.IsMalformed :=
    Named.not_isMalformed (show Named.refusal? .multibyte = _ from rfl)
  simp only [← hrefusal, ← read_refuses_iff, hplain, not_false_eq_true, and_true]

end LoadPlan.Xml
