import LoadPlan.Proofs.Plan.SamplerPath

/-!
# Entities, one replacement after another

Ampersands are written as entities by one replacement in the whole text, and entities are decoded by
three: those of the angle brackets first, then that of the ampersand. A sampler decodes in a single
pass, which comes to the same, since no replacement makes an occurrence of what is replaced after
it: each puts one character where an entity was, and that character is not inside any entity.
-/

namespace LoadPlan.Text

/-- Characters with each occurrence of a pattern replaced. Occurrences are taken from the left and
do not overlap; the pattern has at least one character. -/
def replaceAll (pattern replacement : List Char) : List Char → List Char
  | [] => []
  | c :: cs =>
    if pattern <+: c :: cs then
      replacement ++ replaceAll pattern replacement (cs.drop (pattern.length - 1))
    else c :: replaceAll pattern replacement cs
  termination_by cs => cs.length
  decreasing_by all_goals simp only [List.length_drop, List.length_cons]; omega

section Replace

variable {pattern replacement : List Char}

@[simp] theorem replaceAll_nil : replaceAll pattern replacement [] = [] := by
  rw [replaceAll]

/-- A character at which no occurrence starts is kept. -/
theorem replaceAll_cons {c : Char} {cs : List Char} (h : ¬ pattern <+: c :: cs) :
    replaceAll pattern replacement (c :: cs) = c :: replaceAll pattern replacement cs := by
  rw [replaceAll, if_neg h]

theorem replaceAll_append (hpattern : pattern ≠ []) (cs : List Char) :
    replaceAll pattern replacement (pattern ++ cs) =
      replacement ++ replaceAll pattern replacement cs := by
  obtain ⟨p, ps, rfl⟩ := List.exists_cons_of_ne_nil hpattern
  rw [List.cons_append, replaceAll, if_pos ⟨cs, rfl⟩]
  simp

section Start

variable {p : Char} {ps : List Char}

/-- A character that no occurrence starts with is kept. -/
theorem replaceAll_cons_of_ne {c : Char} (hc : p ≠ c) (cs : List Char) :
    replaceAll (p :: ps) replacement (c :: cs) = c :: replaceAll (p :: ps) replacement cs :=
  replaceAll_cons fun h => hc (List.cons_prefix_cons.mp h).1

/-- Characters that no occurrence starts with are kept. -/
theorem replaceAll_append_of_not_mem {ds : List Char} (hp : p ∉ ds) (cs : List Char) :
    replaceAll (p :: ps) replacement (ds ++ cs) = ds ++ replaceAll (p :: ps) replacement cs := by
  induction ds with
  | nil => rfl
  | cons d ds ih =>
    obtain ⟨hd, hds⟩ := not_or.mp (List.mem_cons.not.mp hp)
    rw [List.cons_append, replaceAll_cons_of_ne hd, ih hds, List.cons_append]

/-- What starts as the pattern does and goes on in another way is kept. -/
theorem replaceAll_append_of_ne {q e : Char} {es : List Char} (hq : q ≠ e) (hp : p ∉ e :: es)
    (cs : List Char) : replaceAll (p :: q :: ps) replacement (p :: e :: es ++ cs) =
      p :: e :: es ++ replaceAll (p :: q :: ps) replacement cs := by
  have hnone : ¬ p :: q :: ps <+: p :: (e :: es ++ cs) := by
    intro h
    exact hq (List.cons_prefix_cons.mp (List.cons_prefix_cons.mp h).2).1
  rw [List.cons_append, replaceAll_cons hnone, replaceAll_append_of_not_mem hp, ← List.cons_append]

end Start

/-- What a text starts with after a replacement it starts with before, unless the character that is
put in comes into it. -/
theorem prefix_of_prefix_replaceAll {r : Char} {es cs : List Char} (hr : r ∉ es)
    (h : es <+: replaceAll pattern [r] cs) : es <+: cs := by
  induction es generalizing cs with
  | nil => exact List.nil_prefix
  | cons e es ih =>
    cases cs with
    | nil => simp at h
    | cons c cs =>
      by_cases hpattern : pattern <+: c :: cs
      · rw [replaceAll, if_pos hpattern] at h
        obtain ⟨rfl, -⟩ := List.cons_prefix_cons.mp h
        exact absurd List.mem_cons_self hr
      · rw [replaceAll_cons hpattern] at h
        obtain ⟨rfl, hrest⟩ := List.cons_prefix_cons.mp h
        have hmem : r ∉ es := fun hmem => hr (List.mem_cons_of_mem e hmem)
        exact List.cons_prefix_cons.mpr ⟨rfl, ih hmem hrest⟩

/-- A replacement makes no occurrence of another pattern at a character that is kept. -/
theorem not_prefix_replaceAll {r e c : Char} {es cs : List Char} (hr : r ∉ es)
    (h : ¬ e :: es <+: c :: cs) : ¬ e :: es <+: c :: replaceAll pattern [r] cs := by
  intro hprefix
  obtain ⟨rfl, hrest⟩ := List.cons_prefix_cons.mp hprefix
  exact h (List.cons_prefix_cons.mpr ⟨rfl, prefix_of_prefix_replaceAll hr hrest⟩)

end Replace

end LoadPlan.Text

namespace LoadPlan.Plan

open Address (escapeAmpersands)
open Text

/-- The entity of the sign that opens a bracket. -/
abbrev lessEntity : List Char := ['&', 'l', 't', ';']

/-- The entity of the sign that closes a bracket. -/
abbrev greaterEntity : List Char := ['&', 'g', 't', ';']

/-- The entity of the ampersand. -/
abbrev ampersandEntity : List Char := ['&', 'a', 'm', 'p', ';']

/-- Characters with the entities replaced one after another, that of the ampersand last. -/
def replaceEntities (cs : List Char) : List Char :=
  replaceAll ampersandEntity ['&'] (replaceAll greaterEntity ['>'] (replaceAll lessEntity ['<'] cs))

theorem escapeAmpersands_eq_replaceAll (cs : List Char) :
    escapeAmpersands cs = replaceAll ['&'] ampersandEntity cs := by
  induction cs with
  | nil => simp [escapeAmpersands]
  | cons c cs ih =>
    have hcons : escapeAmpersands (c :: cs) =
        (if c = '&' then ampersandEntity else [c]) ++ escapeAmpersands cs := List.flatMap_cons
    rw [hcons, ih]
    by_cases hc : c = '&'
    · subst hc
      exact (replaceAll_append (List.cons_ne_nil _ _) cs).symm
    · rw [if_neg hc, replaceAll_cons_of_ne (Ne.symm hc), List.singleton_append]

/-- Decoding in one pass is the same as the three replacements: what an entity is decoded to is left
alone by the others, and where no entity stands, none comes to stand. -/
theorem decodeEntities_eq_replaceEntities (cs : List Char) :
    decodeEntities cs = replaceEntities cs := by
  unfold replaceEntities
  fun_induction decodeEntities cs with
  | case1 rest ih =>
    change _ = replaceAll _ _ (replaceAll _ _ (replaceAll _ _ (greaterEntity ++ rest)))
    rw [replaceAll_append_of_ne (by decide) (by decide), replaceAll_append (by decide), ih]
    exact (replaceAll_cons_of_ne (by decide) _).symm
  | case2 rest ih =>
    change _ = replaceAll _ _ (replaceAll _ _ (replaceAll _ _ (lessEntity ++ rest)))
    rw [replaceAll_append (by decide), List.singleton_append, replaceAll_cons_of_ne (by decide), ih]
    exact (replaceAll_cons_of_ne (by decide) _).symm
  | case3 rest ih =>
    change _ = replaceAll _ _ (replaceAll _ _ (replaceAll _ _ (ampersandEntity ++ rest)))
    rw [replaceAll_append_of_ne (by decide) (by decide),
      replaceAll_append_of_ne (by decide) (by decide), replaceAll_append (by decide), ih]
    rfl
  | case4 c rest hgt hlt hamp ih =>
    have hnone := not_prefix_of_not_matched hgt hlt hamp
    have hless : ¬ lessEntity <+: c :: rest := hnone _ (by decide)
    have hgreater : ¬ greaterEntity <+: c :: replaceAll lessEntity ['<'] rest :=
      not_prefix_replaceAll (by decide) (hnone _ (by decide))
    have hampersand : ¬ ampersandEntity <+:
        c :: replaceAll greaterEntity ['>'] (replaceAll lessEntity ['<'] rest) :=
      not_prefix_replaceAll (by decide) (not_prefix_replaceAll (by decide) (hnone _ (by decide)))
    rw [replaceAll_cons hless, replaceAll_cons hgreater, replaceAll_cons hampersand, ih]
  | case5 => simp

/-- The three replacements give back any text in which each ampersand was replaced by its entity,
and they are what a sampler does to the path it is given; a path that is empty is none. -/
theorem replaceEntities_replaceAll (q : String) :
    replaceEntities (replaceAll ['&'] ampersandEntity q.toList) = q.toList ∧
      escapeAmpersands q.toList = replaceAll ['&'] ampersandEntity q.toList ∧
      (∀ cs, decodeEntities cs = replaceEntities cs) ∧
      pathValue (.text (String.ofList (escapeAmpersands q.toList))) =
        .ok (if q.isEmpty then .null else .text q) := by
  have hback : replaceEntities (escapeAmpersands q.toList) = q.toList := by
    rw [← decodeEntities_eq_replaceEntities, decodeEntities_escapeAmpersands]
  have hempty : (String.ofList (escapeAmpersands q.toList)).isEmpty = q.isEmpty := by
    rw [Bool.eq_iff_iff, String.isEmpty_iff, String.isEmpty_iff, ← String.toList_eq_nil_iff,
      ← String.toList_eq_nil_iff, String.toList_ofList]
    exact ⟨fun h => by rw [← hback, h]; simp [replaceEntities], fun h => by rw [h]; rfl⟩
  refine ⟨?_, escapeAmpersands_eq_replaceAll _, decodeEntities_eq_replaceEntities, ?_⟩
  · rw [← escapeAmpersands_eq_replaceAll, hback]
  · rw [pathValue, hempty, String.toList_ofList, decodeEntities_eq_replaceEntities, hback,
      String.ofList_toList]

/-- An entity that was written in the text comes back as it was, not decoded. -/
example : replaceEntities "&amp;lt;".toList = "&lt;".toList := by
  cbv

end LoadPlan.Plan
