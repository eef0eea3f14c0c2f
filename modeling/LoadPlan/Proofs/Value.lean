import LoadPlan.Value.Basic

/-!
# Values and the entries of mappings

Which values are a text or null, and what is found under a key of a mapping after an entry was put
in or taken out.
-/

namespace LoadPlan.Value

@[simp]
theorem isText_text (s t : String) : (text s).isText t = (s == t) :=
  rfl

theorem isText_self (s : String) : (text s).isText s = true :=
  beq_self_eq_true s

theorem isText_iff {v : Value} {s : String} : v.isText s = true ↔ v = .text s := by
  cases v with
  | text t => simp [isText]
  | _ => simp [isText]

theorem isNull_iff {v : Value} : v.isNull = true ↔ v = .null := by
  cases v <;> simp [isNull]

end LoadPlan.Value

namespace LoadPlan.Entries

@[grind =]
theorem find?_cons (e : Value × Value) (entries : Entries) (key : String) :
    Entries.find? (e :: entries) key = if e.1.isText key then some e.2 else entries.find? key := by
  unfold Entries.find?
  rw [List.find?_cons]
  cases e.1.isText key <;> rfl

@[simp, grind =]
theorem find?_erase_self (entries : Entries) (key : String) :
    (entries.erase key).find? key = none := by
  unfold Entries.erase Entries.find?
  rw [Option.map_eq_none_iff, List.find?_eq_none]
  intro e he
  simpa using (List.mem_filter.mp he).2

@[simp, grind =]
theorem find?_erase_of_ne (entries : Entries) {key other : String} (h : other ≠ key) :
    (entries.erase key).find? other = entries.find? other := by
  induction entries with
  | nil => rfl
  | cons e rest ih =>
    unfold Entries.erase at ih ⊢
    rw [List.filter_cons, find?_cons]
    cases hkey : e.1.isText key with
    | true =>
      have hother : e.1.isText other = false := by
        rw [Value.isText_iff.mp hkey]
        simpa [Value.isText] using h.symm
      simpa [hother] using ih
    | false => simp [find?_cons, ih]

@[simp, grind =]
theorem has_eq_false_iff {entries : Entries} {key : String} :
    entries.has key = false ↔ entries.find? key = none := by
  unfold Entries.has
  cases entries.find? key <;> simp

@[grind =]
theorem find?_insert_of_new {entries : Entries} {key : String} (h : entries.find? key = none)
    (v : Value) (other : String) : (entries.insert key v).find? other =
      if other = key then some v else entries.find? other := by
  have happend : (entries.insert key v).find? other =
      (entries.find? other).or (if key = other then some v else none) := by
    unfold Entries.insert
    rw [has_eq_false_iff.mpr h, if_neg Bool.false_ne_true]
    unfold Entries.find?
    rw [List.find?_append]
    cases List.find? (fun e => e.1.isText other) entries with
    | some e => rfl
    | none =>
      by_cases hother : key = other
      · simp [Value.isText, hother]
      · simp [Value.isText, hother]
  rw [happend]
  by_cases hother : other = key
  · rw [hother, h, if_pos rfl, Option.none_or]
  · rw [if_neg hother, if_neg (Ne.symm hother), Option.or_none]

end LoadPlan.Entries
