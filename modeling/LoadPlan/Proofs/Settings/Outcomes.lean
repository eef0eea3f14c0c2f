import LoadPlan.Proofs.Scenario.Load
import LoadPlan.Proofs.Settings

/-!
# What comes of a settings section

Every value that stands as a settings section is accepted or refused, on its own as in a document,
and the first value in it that is to be refused decides how (`ofValue_handled`). Not every refusal
is one for a wrong shape: an infinite number and an integer with too many digits have faults of
their own (`ofValue_escapes`).
-/

namespace LoadPlan.Settings

/-! ## Verdicts -/

/-- What can come of a value that stands as a section. -/
inductive Verdict where
  | accepted
  | wrongShape
  | infinite
  | tooManyDigits
  deriving DecidableEq, Repr

/-- The verdict on a section with a value that is refused. -/
def verdictOn (w : Value) : Verdict :=
  match w with
  | .float (.infinite _) => .infinite
  | w => if w.isWritable then .wrongShape else .tooManyDigits

/-- The verdict on a value: only null and mappings are sections, and a section is accepted if
nothing in it is refused. -/
def verdict (v : Value) : Verdict :=
  match v with
  | .null => .accepted
  | .mapping entries => ((refused? (.mapping entries)).map verdictOn).getD .accepted
  | _ => .wrongShape

/-- A result that is as the verdict says. -/
def Verdict.Describes {α : Type} (result : Except Fault α) : Verdict → Prop
  | .accepted => ∃ a, result = .ok a
  | .wrongShape => ∃ fault, result = .error (.shape fault none)
  | .infinite => result = .error .infinite
  | .tooManyDigits => result = .error .tooManyDigits

/-- A verdict that keeps to the faults of a wrong shape. -/
def Verdict.IsPlain (verdict : Verdict) : Prop :=
  verdict = .accepted ∨ verdict = .wrongShape

section Describes

variable {α β : Type} {result : Except Fault α} {verdict : Verdict}

theorem Verdict.Describes.map (h : verdict.Describes result) (f : α → β) :
    verdict.Describes (result.map f) := by
  cases verdict with
  | accepted =>
    obtain ⟨a, rfl⟩ := h
    exact ⟨f a, rfl⟩
  | wrongShape =>
    obtain ⟨fault, rfl⟩ := h
    exact ⟨fault, rfl⟩
  | infinite =>
    obtain rfl : result = .error .infinite := h
    rfl
  | tooManyDigits =>
    obtain rfl : result = .error .tooManyDigits := h
    rfl

/-- A fault of another kind is neither a result nor a wrong shape. -/
theorem not_plain_of_ne {fault : Fault} (h : ∀ shape, fault ≠ .shape shape none) :
    ¬((∃ a : α, Except.error fault = .ok a) ∨
      ∃ shape, (Except.error fault : Except Fault α) = .error (.shape shape none)) := by
  rintro (⟨a, ha⟩ | ⟨shape, hshape⟩)
  · cases ha
  · exact h shape (Except.error.inj hshape)

/-- A value is accepted or has a wrong shape exactly if the verdict on it is plain. -/
theorem Verdict.Describes.isPlain_iff (h : verdict.Describes result) : verdict.IsPlain ↔
    (∃ a, result = .ok a) ∨ ∃ fault, result = .error (.shape fault none) := by
  cases verdict with
  | accepted => exact iff_of_true (.inl rfl) (.inl h)
  | wrongShape => exact iff_of_true (.inr rfl) (.inr h)
  | infinite =>
    obtain rfl : result = .error .infinite := h
    refine iff_of_false ?_ (not_plain_of_ne nofun)
    rintro (hverdict | hverdict) <;> cases hverdict
  | tooManyDigits =>
    obtain rfl : result = .error .tooManyDigits := h
    refine iff_of_false ?_ (not_plain_of_ne nofun)
    rintro (hverdict | hverdict) <;> cases hverdict

theorem verdictOn_of_finite {w : Value} (h : ∀ negative, w ≠ .float (.infinite negative)) :
    verdictOn w = if w.isWritable then .wrongShape else .tooManyDigits := by
  unfold verdictOn
  split
  · exact absurd rfl (h _)
  · rfl

/-- The value that is refused decides the verdict. -/
theorem describes_of_refuses {refused : Option Value} (h : Refuses result refused) :
    ((refused.map verdictOn).getD .accepted).Describes result := by
  cases refused with
  | none => exact h
  | some w =>
    obtain ⟨fault, rfl, hblames⟩ := h
    show (verdictOn w).Describes _
    cases hblames with
    | infinite negative => rfl
    | tooManyDigits hlong =>
      have hfinite (negative : Bool) : w ≠ .float (.infinite negative) := by
        rintro rfl
        cases hlong
      rw [verdictOn_of_finite hfinite, hlong]
      rfl
    | shape hwritable hfinite =>
      rw [verdictOn_of_finite hfinite, hwritable]
      exact ⟨_, rfl⟩

end Describes

/-! ## Sections -/

/-- Reading settings comes out as the verdict says. -/
theorem ofValue_describes (v : Value) : (verdict v).Describes (ofValue v) := by
  cases v with
  | null => exact ⟨_, rfl⟩
  | mapping entries => exact describes_of_refuses (ofValue_refuses entries)
  | _ => exact ⟨_, rfl⟩

theorem ofValue_eq_tooManyDigits {v : Value} (h : verdict v = .tooManyDigits) :
    ofValue v = .error .tooManyDigits := by
  have hdescribes := ofValue_describes v
  rw [h] at hdescribes
  exact hdescribes

/-- A document that holds only settings. -/
def documentOf (v : Value) : Value :=
  .mapping [(.text Loaded.settingsKey, v)]

/-- A document that holds only settings is loaded as they are read. -/
theorem exists_ofValue_documentOf (v : Value) : ∃ f : Settings → Loaded,
    (Loaded.ofValue (documentOf v)).result = (ofValue v).map f := by
  have hget : Entries.get [(.text Loaded.settingsKey, v)] Loaded.settingsKey = v := rfl
  obtain ⟨test, htest⟩ : ∃ test, ((Test.ofOptions (.mapping
      (Entries.erase [(.text Loaded.settingsKey, v)] Loaded.settingsKey))).outcome 1).1 =
        .ok test := ⟨_, rfl⟩
  refine ⟨fun settings => { test, settings }, ?_⟩
  rw [documentOf, Loaded.ofValue_mapping_result, hget, htest]
  cases ofValue v <;> rfl

/-- What comes of a value as a section: what the verdict on it says, and nothing but settings or a
wrong shape exactly if the verdict is plain. -/
structure Handled {α : Type} (v : Value) (result : Except Fault α) : Prop where
  verdict : (verdict v).Describes result
  plain : ((∃ a, result = .ok a) ∨ ∃ fault, result = .error (.shape fault none)) ↔
    (Settings.verdict v).IsPlain

/-- Every value is handled by its verdict, as a section on its own and in a document. -/
theorem ofValue_handled (v : Value) :
    Handled v (ofValue v) ∧ Handled v (Loaded.ofValue (documentOf v)).result := by
  have halone := ofValue_describes v
  obtain ⟨f, hdocument⟩ := exists_ofValue_documentOf v
  have hinside := halone.map f
  rw [← hdocument] at hinside
  exact ⟨⟨halone, halone.isPlain_iff.symm⟩, ⟨hinside, hinside.isPlain_iff.symm⟩⟩

/-- A section with a number of threads. -/
def withThreads (v : Value) : Value :=
  .mapping [(.text "threads", v)]

/-- The first negative number that has too many digits. -/
def tooLong : Value :=
  .int (-Int.ofNat (Nat.pow 10 Number.maxDigits))

/-- Sections with an infinite number of threads, and with a negative number of them that has too
many digits for a message: neither is refused for a wrong shape. -/
theorem ofValue_escapes :
    ofValue (withThreads (.float (.infinite false))) = .error .infinite ∧
      (Loaded.ofValue (documentOf (withThreads (.float (.infinite false))))).result =
        .error .infinite ∧
      ofValue (withThreads tooLong) = .error .tooManyDigits := by
  have hverdict : verdict (withThreads tooLong) = .tooManyDigits := by decide +kernel
  exact ⟨rfl, rfl, ofValue_eq_tooManyDigits hverdict⟩

end LoadPlan.Settings
