import LoadPlan.Proofs.Settings
import LoadPlan.Proofs.Value

/-!
# Settings that are null

A setting that is null counts as not given, and a section may leave such entries out
(`ofValue_withoutNulls`), with one exception: the ramp-up under its usual name keeps the other name
for it from counting even if it is null, and leaving it out lets that one count
(`ofValue_not_withoutNulls`).
-/

namespace LoadPlan.Entries

/-- The entries that are not null. -/
def withoutNulls (entries : Entries) : Entries :=
  entries.filter (!·.2.isNull)

/-- A key that is there once is not among the other entries. -/
theorem find?_eq_none {e : Value × Value} {entries : Entries} {key : String}
    (hkeys : ((e :: entries).map Prod.fst).Nodup) (hkey : e.1.isText key = true) :
    entries.find? key = none := by
  have hnew := (List.nodup_cons.mp hkeys).1
  rw [Value.isText_iff.mp hkey] at hnew
  unfold Entries.find?
  rw [Option.map_eq_none_iff, List.find?_eq_none]
  intro other hother htext
  exact hnew (List.mem_map.mpr ⟨other, hother, Value.isText_iff.mp htext⟩)

/-- What is left of an entry when those that are null are left out. -/
theorem find?_withoutNulls {entries : Entries} (hkeys : (entries.map Prod.fst).Nodup)
    (key : String) : entries.withoutNulls.find? key = (entries.find? key).filter (!·.isNull) := by
  induction entries with
  | nil => rfl
  | cons e rest ih =>
    have hrest := ih (List.nodup_cons.mp hkeys).2
    unfold withoutNulls at hrest ⊢
    rw [List.filter_cons, find?_cons]
    cases hnull : e.2.isNull with
    | true =>
      cases hkey : e.1.isText key with
      | true =>
        rw [find?_eq_none hkeys hkey] at hrest
        simpa [Option.filter_some, hnull] using hrest
      | false => simpa using hrest
    | false =>
      cases hkey : e.1.isText key with
      | true => simp [find?_cons, hkey, Option.filter_some, hnull]
      | false => simpa [find?_cons, hkey] using hrest

theorem get_withoutNulls {entries : Entries} (hkeys : (entries.map Prod.fst).Nodup) (key : String) :
    entries.withoutNulls.get key = entries.get key := by
  unfold Entries.get
  rw [find?_withoutNulls hkeys]
  cases entries.find? key with
  | none => rfl
  | some v => cases v <;> rfl

end LoadPlan.Entries

namespace LoadPlan.Settings

/-! ## Names of settings -/

/-- What a section gives for the ramp-up: what is under the usual name if that is there, and else
what is under the other name. -/
def givenRampTime (entries : Entries) : Value :=
  if entries.has "ramp_time" then entries.get "ramp_time" else entries.get "rampup"

theorem get_unifyNames_rampTime (entries : Entries) :
    (unifyNames entries).get "ramp_time" = givenRampTime entries := by
  unfold unifyNames givenRampTime
  cases husual : entries.has "ramp_time" with
  | true =>
    rw [if_pos rfl]
    cases entries.find? "rampup" <;> rfl
  | false =>
    rw [if_neg Bool.false_ne_true]
    unfold Entries.get
    cases hother : entries.find? "rampup" <;> grind

theorem get_unifyNames_of_ne (entries : Entries) {name : String} (husual : name ≠ "ramp_time")
    (hother : name ≠ "rampup") : (unifyNames entries).get name = entries.get name := by
  unfold unifyNames
  split
  · rename_i v hgiven hmissing
    unfold Entries.get
    grind
  · rfl

/-- Settings depend only on what a section gives for each of them. -/
theorem ofValue_congr {entries entries' : Entries}
    (h : ∀ name ∈ integerNames ++ textNames,
      (unifyNames entries).get name = (unifyNames entries').get name) :
    ofValue (.mapping entries) = ofValue (.mapping entries') := by
  have hinteger (name : String) (default : Value) (hname : name ∈ integerNames ++ textNames) :
      integer (unifyNames entries) name default = integer (unifyNames entries') name default := by
    unfold integer
    rw [h name hname]
  have htext (name : String) (default : Value) (hname : name ∈ integerNames ++ textNames) :
      text (unifyNames entries) name default = text (unifyNames entries') name default := by
    unfold text
    rw [h name hname]
  unfold ofValue
  dsimp only
  rw [hinteger "threads" _ (by decide), hinteger "ramp_time" _ (by decide),
    hinteger "loops" _ (by decide), htext "on_sample_error" _ (by decide),
    htext "listener_classname" _ (by decide), htext "jmeter_version" _ (by decide)]

/-- A name of a setting is not the other name for the ramp-up. -/
theorem ne_of_mem_names {name : String} (h : name ∈ integerNames ++ textNames) :
    name ≠ "rampup" := by
  rintro rfl
  revert h
  decide

/-- Sections with the same ramp-up and the same under all names but that give the same settings. -/
theorem ofValue_congr_names {entries entries' : Entries}
    (hrampTime : givenRampTime entries' = givenRampTime entries)
    (hother : ∀ name, name ≠ "rampup" → entries'.get name = entries.get name) :
    ofValue (.mapping entries') = ofValue (.mapping entries) := by
  refine ofValue_congr fun name hname => ?_
  by_cases husual : name = "ramp_time"
  · rw [husual, get_unifyNames_rampTime, get_unifyNames_rampTime, hrampTime]
  · have hne := ne_of_mem_names hname
    rw [get_unifyNames_of_ne _ husual hne, get_unifyNames_of_ne _ husual hne, hother name hne]

/-! ## Sections without nulls -/

/-- Whether a section has null for the ramp-up under its usual name and a value under the other. -/
def hidesRampUp (entries : Entries) : Bool :=
  (entries.find? "ramp_time").any Value.isNull && (entries.find? "rampup").any (!·.isNull)

section Nulls

variable {entries : Entries}

theorem hidesRampUp_iff : hidesRampUp entries = true ↔
    entries.find? "ramp_time" = some .null ∧
      ∃ v, entries.find? "rampup" = some v ∧ v.isNull = false := by
  unfold hidesRampUp
  rw [Bool.and_eq_true, Option.any_eq_true, Option.any_eq_true]
  constructor
  · rintro ⟨⟨v, husual, hnull⟩, w, hother, hgiven⟩
    rw [Value.isNull_iff.mp hnull] at husual
    exact ⟨husual, w, hother, by simpa using hgiven⟩
  · rintro ⟨husual, w, hother, hgiven⟩
    exact ⟨⟨.null, husual, rfl⟩, w, hother, by simpa using hgiven⟩

theorem get_rampUp_of_hidesRampUp (h : hidesRampUp entries = false)
    (husual : entries.find? "ramp_time" = some .null) : entries.get "rampup" = .null := by
  unfold Entries.get
  cases hother : entries.find? "rampup" with
  | none => rfl
  | some v =>
    cases hnull : v.isNull with
    | true => exact Value.isNull_iff.mp hnull
    | false =>
      have hhides := hidesRampUp_iff.mpr ⟨husual, v, hother, hnull⟩
      exact absurd (h.symm.trans hhides) Bool.false_ne_true

variable (hkeys : (entries.map Prod.fst).Nodup)
include hkeys

theorem givenRampTime_withoutNulls (h : hidesRampUp entries = false) :
    givenRampTime entries.withoutNulls = givenRampTime entries := by
  unfold givenRampTime
  rw [Entries.get_withoutNulls hkeys, Entries.get_withoutNulls hkeys]
  unfold Entries.has
  rw [Entries.find?_withoutNulls hkeys]
  cases husual : entries.find? "ramp_time" with
  | none => rfl
  | some v =>
    cases hnull : v.isNull with
    | false => simp [Option.filter_some, hnull]
    | true =>
      -- the usual name is left out, so the other one counts, but that is null or absent as well
      obtain rfl := Value.isNull_iff.mp hnull
      rw [get_rampUp_of_hidesRampUp h husual]
      unfold Entries.get
      rw [husual]
      rfl

/-- An entry that is null counts as not there, and so does a ramp-up that it hides. -/
theorem givenRampTime_erase (h : hidesRampUp entries = true) :
    givenRampTime (entries.withoutNulls.erase "rampup") = givenRampTime entries := by
  obtain ⟨husual, -⟩ := hidesRampUp_iff.mp h
  have hleft : (entries.withoutNulls.erase "rampup").find? "ramp_time" = none := by
    rw [Entries.find?_erase_of_ne _ (by decide), Entries.find?_withoutNulls hkeys, husual]
    rfl
  unfold givenRampTime Entries.has Entries.get
  rw [hleft, Entries.find?_erase_self, husual]
  rfl

/-- Leaving out what is null changes nothing, unless it uncovers another name for the ramp-up;
leaving that out as well changes nothing then. -/
theorem ofValue_withoutNulls :
    (hidesRampUp entries = false →
      ofValue (.mapping entries.withoutNulls) = ofValue (.mapping entries)) ∧
    (hidesRampUp entries = true →
      ofValue (.mapping (entries.withoutNulls.erase "rampup")) = ofValue (.mapping entries)) := by
  constructor
  · intro h
    exact ofValue_congr_names (givenRampTime_withoutNulls hkeys h) fun name _ =>
      Entries.get_withoutNulls hkeys name
  · intro h
    refine ofValue_congr_names (givenRampTime_erase hkeys h) fun name hname => ?_
    rw [← Entries.get_withoutNulls hkeys name]
    unfold Entries.get
    rw [Entries.find?_erase_of_ne _ hname]

end Nulls

/-- A section with a ramp-up that is hidden, and with another entry that is null. -/
def hiddenEntries : Entries :=
  [(.text "ramp_time", .null), (.text "rampup", .int 30), (.text "loops", .null)]

theorem ofValue_withoutNulls_hiddenEntries :
    (hiddenEntries.map Prod.fst).Nodup ∧ hidesRampUp hiddenEntries = true ∧
      ofValue (.mapping (hiddenEntries.withoutNulls.erase "rampup")) =
        ofValue (.mapping hiddenEntries) := by
  have hkeys : (hiddenEntries.map Prod.fst).Nodup := by simp [hiddenEntries]
  exact ⟨hkeys, rfl, (ofValue_withoutNulls hkeys).2 rfl⟩

/-- Leaving out what is null changes the ramp-up when it uncovers the other name for it. -/
theorem ofValue_not_withoutNulls :
    ofValue (.mapping hiddenEntries) = .ok {} ∧
      ofValue (.mapping hiddenEntries.withoutNulls) = .ok { rampTime := .int 30 } ∧
      ({ rampTime := .int 30 } : Settings) ≠ {} := by
  refine ⟨rfl, rfl, fun h => ?_⟩
  cases congrArg Settings.rampTime h

end LoadPlan.Settings
