import LoadPlan.Proofs.Xml.Document

/-!
# What declarations say

A declaration names a version, then an encoding, then whether the document stands alone, each as a
name and a value in quotes. It is read with a name for the encoding exactly if it is written with
one (`ofChars_names_iff`), and no declaration holds the mark that ends it
(`NamesEncoding.isInner`).
-/

namespace LoadPlan.Xml.Declaration

/-! ## The grammar -/

/-- White space between the parts of a declaration. -/
def IsBlank (cs : List Char) : Prop :=
  ∀ c ∈ cs, isSpace c = true

/-- An entry as it is written: a name and a value in quotes, with white space in front and around
the equals sign. -/
def IsEntry (name value written : List Char) : Prop :=
  ∃ (lead before after : List Char) (quote : Char), lead ≠ [] ∧ IsBlank lead ∧ IsBlank before ∧
    IsBlank after ∧ (quote = '"' ∨ quote = '\'') ∧ (∀ c ∈ value, isValueChar c = true) ∧
      written = lead ++ (name ++ (before ++ '=' :: (after ++ quote :: (value ++ [quote]))))

/-- What follows the encoding: whether the document stands alone, or nothing. -/
def IsEnding (cs : List Char) : Prop :=
  IsBlank cs ∨ ∃ answer written blank, (answer = "yes".toList ∨ answer = "no".toList) ∧
    IsEntry "standalone".toList answer written ∧ IsBlank blank ∧ cs = written ++ blank

/-- A declaration with a name for the encoding, after its target. -/
def NamesEncoding (said name : List Char) : Prop :=
  ∃ version first second ending, IsEntry "version".toList version first ∧
    IsEntry "encoding".toList name second ∧ startsWithLetter name = true ∧ IsEnding ending ∧
      said = first ++ (second ++ ending)

/-! ## Entries that are read -/

theorem exists_blank {cs start : List Char} (h : skipSpace cs = start) :
    ∃ lead, IsBlank lead ∧ cs = lead ++ start := by
  subst h
  exact ⟨cs.takeWhile isSpace, fun c hc => List.mem_takeWhile_imp hc,
    List.takeWhile_append_dropWhile.symm⟩

theorem isBlank_of_skipSpace {cs : List Char} (h : skipSpace cs = []) : IsBlank cs :=
  List.dropWhile_eq_nil_iff.mp h

theorem takeValue_sound {quote : Char} {name place cs rest : List Char} {e : Option Entry}
    (h : takeValue quote name place cs = .ok (e, rest)) : ∃ value valuePlace,
      e = some ⟨name, place, value, valuePlace⟩ ∧ (∀ c ∈ value, isValueChar c = true) ∧
        cs = value ++ quote :: rest := by
  unfold takeValue at h
  dsimp only at h
  split at h
  · rename_i c more hdrop
    split at h
    · rename_i hquote
      obtain ⟨rfl, rfl⟩ := Prod.mk.inj (Except.ok.inj h)
      refine ⟨_, _, rfl, fun c hc => List.mem_takeWhile_imp hc, ?_⟩
      rw [← hquote, ← hdrop, List.takeWhile_append_dropWhile]
    · cases h
  · cases h

theorem takeQuoted_sound {name place cs rest : List Char} {e : Option Entry}
    (h : takeQuoted name place cs = .ok (e, rest)) : ∃ after quote value valuePlace,
      e = some ⟨name, place, value, valuePlace⟩ ∧ IsBlank after ∧ (quote = '"' ∨ quote = '\'') ∧
        (∀ c ∈ value, isValueChar c = true) ∧ cs = after ++ quote :: (value ++ quote :: rest) := by
  unfold takeQuoted at h
  split at h
  · rename_i more hmore
    obtain ⟨after, hafter, rfl⟩ := exists_blank hmore
    obtain ⟨value, valuePlace, rfl, hvalue, rfl⟩ := takeValue_sound h
    exact ⟨after, '"', value, valuePlace, rfl, hafter, .inl rfl, hvalue, rfl⟩
  · rename_i more hmore
    obtain ⟨after, hafter, rfl⟩ := exists_blank hmore
    obtain ⟨value, valuePlace, rfl, hvalue, rfl⟩ := takeValue_sound h
    exact ⟨after, '\'', value, valuePlace, rfl, hafter, .inr rfl, hvalue, rfl⟩
  · cases h

theorem takeNamed_sound {start rest : List Char} {e : Option Entry}
    (h : takeNamed start = .ok (e, rest)) : ∃ name before after quote value valuePlace,
      e = some ⟨name, start, value, valuePlace⟩ ∧ IsBlank before ∧ IsBlank after ∧
        (quote = '"' ∨ quote = '\'') ∧ (∀ c ∈ value, isValueChar c = true) ∧
          start = name ++ (before ++ '=' :: (after ++ quote :: (value ++ quote :: rest))) := by
  unfold takeNamed at h
  split at h
  · cases h
  · rename_i sign hsign _
    obtain ⟨before, hbefore, hmiddle⟩ := exists_blank hsign
    obtain ⟨after, quote, value, valuePlace, rfl, hafter, hquote, hvalue, rfl⟩ :=
      takeQuoted_sound h
    refine ⟨_, before, after, quote, value, valuePlace, rfl, hbefore, hafter, hquote, hvalue, ?_⟩
    rw [← hmiddle, List.takeWhile_append_dropWhile]
  · cases h

theorem takeEntry_sound {cs rest : List Char} {e : Entry} (h : takeEntry cs = .ok (some e, rest)) :
    ∃ written, IsEntry e.name e.value written ∧ cs = written ++ rest := by
  unfold takeEntry at h
  split at h
  · cases h
  rename_i c more
  split at h
  · cases h
  rename_i hc
  have hspace : isSpace c = true := by simpa using hc
  have hlead : (c :: more).takeWhile isSpace ≠ [] := by
    rw [List.takeWhile_cons_of_pos hspace]
    exact List.cons_ne_nil _ _
  split at h
  · cases h
  obtain ⟨name, before, after, quote, value, valuePlace, he, hbefore, hafter, hquote, hvalue,
    hstart⟩ := takeNamed_sound h
  obtain rfl := Option.some.inj he
  refine ⟨_, ⟨_, before, after, quote, hlead, fun c hc => List.mem_takeWhile_imp hc, hbefore,
    hafter, hquote, hvalue, rfl⟩, ?_⟩
  have hsplit : c :: more = (c :: more).takeWhile isSpace ++ skipSpace (c :: more) :=
    List.takeWhile_append_dropWhile.symm
  rw [hstart] at hsplit
  simpa using hsplit

theorem isBlank_of_takeEntry {cs rest : List Char} (h : takeEntry cs = .ok (none, rest)) :
    IsBlank cs := by
  unfold takeEntry at h
  split at h
  · exact fun c hc => absurd hc List.not_mem_nil
  split at h
  · cases h
  split at h
  · exact isBlank_of_skipSpace ‹_›
  · obtain ⟨name, before, after, quote, value, valuePlace, he, -⟩ := takeNamed_sound h
    cases he

/-! ## Entries that are written -/

theorem takeEntry_blank {cs : List Char} (h : IsBlank cs) : takeEntry cs = .ok (none, []) := by
  cases cs with
  | nil => rfl
  | cons c more =>
    have hc : isSpace c = true := h c List.mem_cons_self
    simp [takeEntry, hc, skipSpace_of_all h]

theorem skipSpace_blank {lead : List Char} (h : IsBlank lead) {c : Char} (hc : isSpace c = false)
    (rest : List Char) : skipSpace (lead ++ c :: rest) = c :: rest := by
  rw [skipSpace_append h, skipSpace, List.dropWhile_cons_of_neg (Bool.not_eq_true _ ▸ hc)]

theorem takeValue_written {quote : Char} (hquote : isValueChar quote = false) {value : List Char}
    (hvalue : ∀ c ∈ value, isValueChar c = true) (name place rest : List Char) :
    takeValue quote name place (value ++ quote :: rest) =
      .ok (some ⟨name, place, value, value ++ quote :: rest⟩, rest) := by
  have hstop : ¬isValueChar quote = true := by simp [hquote]
  unfold takeValue
  rw [List.takeWhile_append_of_pos hvalue, List.dropWhile_append_of_pos hvalue,
    List.takeWhile_cons_of_neg hstop, List.dropWhile_cons_of_neg hstop, List.append_nil]
  simp

theorem takeQuoted_written {after value : List Char} {quote : Char} (hafter : IsBlank after)
    (hquote : quote = '"' ∨ quote = '\'') (hvalue : ∀ c ∈ value, isValueChar c = true)
    (name place rest : List Char) :
    takeQuoted name place (after ++ quote :: (value ++ quote :: rest)) =
      .ok (some ⟨name, place, value, value ++ quote :: rest⟩, rest) := by
  unfold takeQuoted
  obtain rfl | rfl := hquote
  · rw [skipSpace_blank hafter (by decide)]
    exact takeValue_written (by decide) hvalue name place rest
  · rw [skipSpace_blank hafter (by decide)]
    exact takeValue_written (by decide) hvalue name place rest

/-- The name of an entry ends where white space or the equals sign begins. -/
theorem takeNamed_written {name before after value : List Char} {quote : Char} (hne : name ≠ [])
    (hname : ∀ c ∈ name, isEntryNameChar c = true) (hbefore : IsBlank before)
    (hafter : IsBlank after) (hquote : quote = '"' ∨ quote = '\'')
    (hvalue : ∀ c ∈ value, isValueChar c = true) (rest : List Char) : ∃ e,
      takeNamed (name ++ (before ++ '=' :: (after ++ quote :: (value ++ quote :: rest)))) =
        .ok (some e, rest) ∧ e.name = name ∧ e.value = value := by
  have hstop (more : List Char) : (before ++ '=' :: more).takeWhile isEntryNameChar = [] ∧
      (before ++ '=' :: more).dropWhile isEntryNameChar = before ++ '=' :: more := by
    cases before with
    | nil => exact ⟨rfl, rfl⟩
    | cons b before =>
      have hb : ¬isEntryNameChar b = true := by simp [isEntryNameChar, hbefore b List.mem_cons_self]
      exact ⟨List.takeWhile_cons_of_neg hb, List.dropWhile_cons_of_neg hb⟩
  obtain ⟨c, more, rfl⟩ := List.exists_cons_of_ne_nil hne
  unfold takeNamed
  rw [List.takeWhile_append_of_pos hname, List.dropWhile_append_of_pos hname, (hstop _).1,
    (hstop _).2, skipSpace_blank hbefore (by decide), List.append_nil]
  exact ⟨_, takeQuoted_written hafter hquote hvalue _ _ rest, rfl, rfl⟩

theorem takeEntry_written {name value written : List Char} (h : IsEntry name value written)
    (hne : name ≠ []) (hname : ∀ c ∈ name, isEntryNameChar c = true) (rest : List Char) :
    ∃ e, takeEntry (written ++ rest) = .ok (some e, rest) ∧ e.name = name ∧ e.value = value := by
  obtain ⟨lead, before, after, quote, hlead, hblank, hbefore, hafter, hquote, hvalue, rfl⟩ := h
  have hread := takeNamed_written hne hname hbefore hafter hquote hvalue rest
  obtain ⟨l, ls, rfl⟩ := List.exists_cons_of_ne_nil hlead
  obtain ⟨c, more, rfl⟩ := List.exists_cons_of_ne_nil hne
  have hl : isSpace l = true := hblank l List.mem_cons_self
  have hc : isSpace c = false := by
    have hmark := hname c List.mem_cons_self
    simp only [isEntryNameChar, Bool.and_eq_true] at hmark
    simpa using hmark.1.2
  have hskip := skipSpace_blank hblank hc
    (more ++ (before ++ '=' :: (after ++ quote :: (value ++ quote :: rest))))
  simp only [List.append_assoc, List.cons_append, List.nil_append] at hread hskip ⊢
  simpa [takeEntry, hl, hskip] using hread

/-! ## Declarations -/

theorem takeStandalone_sound {d d' : Declaration} {e : Entry} {rest : List Char}
    (h : takeStandalone d e rest = .ok d') : e.name = "standalone".toList ∧
      (e.value = "yes".toList ∨ e.value = "no".toList) ∧ IsBlank rest ∧
        d'.encoding = d.encoding := by
  unfold takeStandalone at h
  split at h
  · cases h
  rename_i hname
  split at h
  · cases h
  rename_i hvalue
  split at h
  · rename_i hrest
    obtain rfl := Except.ok.inj h
    refine ⟨by simpa using hname, ?_, isBlank_of_skipSpace hrest, rfl⟩
    by_cases hyes : e.value = "yes".toList
    · exact .inl hyes
    · simp only [Bool.and_eq_true, bne_iff_ne, not_and, not_not] at hvalue
      exact .inr (hvalue hyes)
  · cases h

theorem takeStandalone_written {e : Entry} (hname : e.name = "standalone".toList)
    (hvalue : e.value = "yes".toList ∨ e.value = "no".toList) {rest : List Char}
    (hrest : IsBlank rest) (d : Declaration) :
    ∃ d', takeStandalone d e rest = .ok d' ∧ d'.encoding = d.encoding := by
  unfold takeStandalone
  rw [hname, skipSpace_of_all hrest]
  obtain hvalue | hvalue := hvalue
  · rw [hvalue]
    exact ⟨_, rfl, rfl⟩
  · rw [hvalue]
    exact ⟨_, rfl, rfl⟩

theorem takeFurther_sound {e : Entry} {rest name place : List Char} {d : Declaration}
    (h : takeFurther e rest = .ok d) (hname : d.encoding = some (name, place)) :
    e.name = "encoding".toList ∧ e.value = name ∧ startsWithLetter name = true ∧
      IsEnding rest := by
  unfold takeFurther at h
  split at h
  · rename_i hencoding
    split at h
    · cases h
    rename_i hletter
    dsimp only at h
    split at h
    · cases h
    · rename_i hnone
      obtain rfl := Except.ok.inj h
      obtain ⟨rfl, -⟩ := Prod.mk.inj (Option.some.inj hname)
      exact ⟨hencoding, rfl, by simpa using hletter, .inl (isBlank_of_takeEntry hnone)⟩
    · rename_i last after hlast
      obtain ⟨hstandalone, hanswer, hblank, hsame⟩ := takeStandalone_sound h
      rw [hsame] at hname
      obtain ⟨rfl, -⟩ := Prod.mk.inj (Option.some.inj hname)
      obtain ⟨written, hwritten, hrest⟩ := takeEntry_sound hlast
      rw [hstandalone] at hwritten
      exact ⟨hencoding, rfl, by simpa using hletter,
        .inr ⟨last.value, written, after, hanswer, hwritten, hblank, hrest⟩⟩
  · obtain ⟨-, -, -, hsame⟩ := takeStandalone_sound h
    rw [hsame] at hname
    cases hname

theorem takeFurther_written {e : Entry} (hname : e.name = "encoding".toList)
    (hletter : startsWithLetter e.value = true) {rest : List Char} (hrest : IsEnding rest) :
    ∃ d, takeFurther e rest = .ok d ∧ d.encoding = some (e.value, e.valuePlace) := by
  unfold takeFurther
  rw [if_pos hname, hletter]
  obtain hblank | ⟨answer, written, blank, hanswer, hwritten, hblank, rfl⟩ := hrest
  · rw [takeEntry_blank hblank]
    exact ⟨_, rfl, rfl⟩
  · obtain ⟨last, hlast, hlastName, rfl⟩ :=
      takeEntry_written hwritten (by decide) (by simp [isEntryNameChar, isSpace]) blank
    rw [hlast]
    exact takeStandalone_written hlastName hanswer hblank _

/-- A declaration is read with a name for the encoding exactly if it is written with one. -/
theorem ofChars_names_iff (said name : List Char) :
    (∃ d place, ofChars said = .ok d ∧ d.encoding = some (name, place)) ↔
      NamesEncoding said name := by
  constructor
  · rintro ⟨d, place, h, hname⟩
    unfold ofChars at h
    split at h
    · cases h
    · cases h
    rename_i version rest hversion
    split at h
    · cases h
    rename_i hversionName
    obtain ⟨first, hfirst, rfl⟩ := takeEntry_sound hversion
    rw [show version.name = "version".toList by simpa using hversionName] at hfirst
    split at h
    · cases h
    · obtain rfl := Except.ok.inj h
      cases hname
    rename_i encoding ending hencoding
    obtain ⟨second, hsecond, rfl⟩ := takeEntry_sound hencoding
    obtain ⟨hencodingName, rfl, hletter, hending⟩ := takeFurther_sound h hname
    rw [hencodingName] at hsecond
    exact ⟨version.value, first, second, ending, hfirst, hsecond, hletter, hending, rfl⟩
  · rintro ⟨version, first, second, ending, hfirst, hsecond, hletter, hending, rfl⟩
    obtain ⟨e, he, hversionName, -⟩ :=
      takeEntry_written hfirst (by decide) (by simp [isEntryNameChar, isSpace]) (second ++ ending)
    obtain ⟨e', he', hencodingName, rfl⟩ :=
      takeEntry_written hsecond (by decide) (by simp [isEntryNameChar, isSpace]) ending
    obtain ⟨d, hd, hencoding⟩ := takeFurther_written hencodingName hletter hending
    refine ⟨d, e'.valuePlace, ?_, hencoding⟩
    unfold ofChars
    rw [he]
    dsimp only
    rw [hversionName, he']
    exact hd

/-! ## Characters of declarations -/

/-- A character that can stand in an instruction without ending it. -/
def IsInner (c : Char) : Prop :=
  isChar c = true ∧ c ≠ '?'

theorem isInner_of_isSpace {c : Char} (h : isSpace c = true) : IsInner c := by
  simp only [isSpace, Bool.or_eq_true, decide_eq_true_eq] at h
  obtain ((rfl | rfl) | rfl) | rfl := h
  all_goals exact ⟨by decide, by decide⟩

theorem bounds_of_isValueChar {c : Char} (h : isValueChar c = true) :
    0x20 ≤ c.toNat ∧ c.toNat < 0x80 := by
  simp only [isValueChar, Bool.or_eq_true, decide_eq_true_eq] at h
  obtain ((h | rfl) | rfl) | rfl := h
  · simp only [Char.isAlphanum, Char.isAlpha, Char.isUpper, Char.isLower, Char.isDigit,
      Bool.or_eq_true, Bool.and_eq_true, decide_eq_true_eq, ge_iff_le,
      UInt32.le_iff_toNat_le] at h
    have hval : c.toNat = c.val.toNat := rfl
    simp only [Char.reduceVal, UInt32.reduceToNat] at h
    omega
  all_goals decide

theorem isInner_of_isValueChar {c : Char} (h : isValueChar c = true) : IsInner c := by
  obtain ⟨hlow, hhigh⟩ := bounds_of_isValueChar h
  refine ⟨?_, fun hc => ?_⟩
  · simp only [isChar, Bool.or_eq_true, Bool.and_eq_true, decide_eq_true_eq]
    exact .inr ⟨⟨hlow, by omega⟩, by omega⟩
  · rw [hc] at h
    exact absurd h (by decide)

theorem IsEntry.isInner {name value written : List Char} (h : IsEntry name value written)
    (hname : ∀ c ∈ name, IsInner c) : ∀ c ∈ written, IsInner c := by
  obtain ⟨lead, before, after, quote, -, hlead, hbefore, hafter, hquote, hvalue, rfl⟩ := h
  have hquoted : IsInner quote := by
    obtain rfl | rfl := hquote
    all_goals exact ⟨by decide, by decide⟩
  intro c hc
  simp only [List.mem_append, List.mem_cons, List.not_mem_nil, or_false] at hc
  obtain hc | hc | hc | rfl | hc | rfl | hc | rfl := hc
  · exact isInner_of_isSpace (hlead c hc)
  · exact hname c hc
  · exact isInner_of_isSpace (hbefore c hc)
  · exact ⟨by decide, by decide⟩
  · exact isInner_of_isSpace (hafter c hc)
  · exact hquoted
  · exact isInner_of_isValueChar (hvalue c hc)
  · exact hquoted

theorem isInner_of_blank {blank : List Char} (h : IsBlank blank) : ∀ c ∈ blank, IsInner c :=
  fun c hc => isInner_of_isSpace (h c hc)

/-- A declaration has no end inside, and begins with white space. -/
theorem NamesEncoding.isInner {said name : List Char} (h : NamesEncoding said name) :
    (∃ c more, said = c :: more ∧ isSpace c = true) ∧ ∀ c ∈ said, IsInner c := by
  obtain ⟨version, first, second, ending, hfirst, hsecond, -, hending, rfl⟩ := h
  have hinner : ∀ c ∈ ending, IsInner c := by
    obtain hblank | ⟨answer, written, blank, -, hwritten, hblank, rfl⟩ := hending
    · exact isInner_of_blank hblank
    · intro c hc
      obtain hc | hc := List.mem_append.mp hc
      · exact hwritten.isInner (by simp [IsInner, isChar]) c hc
      · exact isInner_of_blank hblank c hc
  constructor
  · obtain ⟨lead, before, after, quote, hlead, hblank, -, -, -, -, rfl⟩ := hfirst
    obtain ⟨c, more, rfl⟩ := List.exists_cons_of_ne_nil hlead
    exact ⟨c, _, rfl, hblank c List.mem_cons_self⟩
  · intro c hc
    obtain hc | hc := List.mem_append.mp hc
    · exact hfirst.isInner (by simp [IsInner, isChar]) c hc
    obtain hc | hc := List.mem_append.mp hc
    · exact hsecond.isInner (by simp [IsInner, isChar]) c hc
    · exact hinner c hc

end LoadPlan.Xml.Declaration
