import LoadPlan.Number.Reader
import Mathlib.Algebra.Group.Nat.Defs

/-!
# Integers that are written in decimal

The reader of integers allows more than what is ever written: blanks around the number, a plus
sign, underscores and digits of other scripts. What is written has none of them, so each step of the
reader but the last leaves it as it is, and the integer is read back (`integer?_toString`), unless
it has more digits than the reader takes.
-/

namespace LoadPlan.Number

open Text

section Digits

variable {cs : List Char} (h : ∀ c ∈ cs, isAsciiDigit c = true)

include h

theorem not_mem_of_digits {d : Char} (hd : isAsciiDigit d = false) : d ∉ cs := by
  intro hmem
  exact Bool.false_ne_true (hd.symm.trans (h d hmem))

theorem isDigitRun_of_digits (hne : cs ≠ []) : isDigitRun cs = true := by
  have hsingle : cs.splitOn '_' = [cs] := List.splitOn_eq_singleton (not_mem_of_digits h rfl)
  rw [isDigitRun, hsingle, List.all_cons, List.all_nil, Bool.and_true, Bool.and_eq_true]
  exact ⟨by simpa using hne, List.all_eq_true.mpr h⟩

theorem takeSign_of_digits : takeSign cs = (false, cs) := by
  unfold takeSign
  split
  · exact absurd List.mem_cons_self (not_mem_of_digits h rfl)
  · exact absurd List.mem_cons_self (not_mem_of_digits h rfl)
  · rfl

theorem filter_underscore_of_digits : cs.filter (· != '_') = cs := by
  rw [List.filter_eq_self]
  intro c hc
  rw [bne_iff_ne]
  rintro rfl
  exact not_mem_of_digits h rfl hc

end Digits

/-! ## Characters that a reader leaves as they are -/

/-- A character that is neither replaced nor dropped as a blank. -/
def IsPlain (c : Char) : Prop :=
  c.toNat < 127 ∧ isAsciiBlank c = false

theorem isPlain_of_digit {c : Char} (h : isAsciiDigit c = true) : IsPlain c := by
  unfold isAsciiDigit at h
  unfold IsPlain isAsciiBlank
  simp only [Bool.and_eq_true, decide_eq_true_eq, Bool.or_eq_false_iff, beq_eq_false_iff_ne,
    Bool.and_eq_false_iff, decide_eq_false_iff_not] at h ⊢
  omega

section Plain

variable {cs : List Char} (h : ∀ c ∈ cs, IsPlain c)

include h

theorem map_numeralChar_of_plain : cs.map numeralChar = cs := by
  have hself : ∀ c ∈ cs, numeralChar c = c := fun c hc => if_pos (h c hc).1
  rw [List.map_congr_left hself, List.map_id']

theorem dropWhile_isAsciiBlank_of_plain : cs.dropWhile isAsciiBlank = cs := by
  cases cs with
  | nil => rfl
  | cons c cs => rw [List.dropWhile_cons, (h c List.mem_cons_self).2, if_neg Bool.false_ne_true]

theorem trimBoth_isAsciiBlank_of_plain : trimBoth isAsciiBlank cs = cs := by
  have hreverse : ∀ c ∈ cs.reverse, IsPlain c := fun c hc => h c (List.mem_reverse.mp hc)
  rw [trimBoth, dropWhile_isAsciiBlank_of_plain h, dropWhile_isAsciiBlank_of_plain hreverse,
    List.reverse_reverse]

end Plain

/-! ## What is written -/

theorem isAsciiDigit_of_mem_toDigits {n : Nat} :
    ∀ c ∈ Nat.toDigits 10 n, isAsciiDigit c = true := by
  intro c hc
  have hdigit : c.isDigit = true := Nat.isDigit_of_mem_toDigits (by decide) (by decide) hc
  simpa [isAsciiDigit, Char.isDigit, UInt32.le_iff_toNat_le] using hdigit

@[simp]
theorem ofDigits_toDigits (n : Nat) : ofDigits (Nat.toDigits 10 n) = n :=
  Nat.ofDigitChars_toDigits (by decide) (by decide)

/-- The characters of an integer: a minus if it is negative, and the digits of its magnitude. -/
theorem toList_toString (n : Int) :
    (toString n).toList = (if n < 0 then ['-'] else []) ++ Nat.toDigits 10 n.natAbs := by
  cases n with
  | ofNat n =>
    have hsign : ¬ Int.ofNat n < 0 := Int.not_lt.mpr (Int.natCast_nonneg n)
    rw [if_neg hsign, List.nil_append]
    exact Nat.toList_repr
  | negSucc n =>
    rw [if_pos (Int.negSucc_lt_zero n)]
    change ("-" ++ (n + 1).repr).toList = _
    rw [String.toList_append, Nat.toList_repr]
    rfl

theorem takeSign_toString (n : Int) :
    takeSign (toString n).toList = (decide (n < 0), Nat.toDigits 10 n.natAbs) := by
  rw [toList_toString]
  by_cases hsign : n < 0
  · rw [if_pos hsign, decide_eq_true hsign]
    rfl
  · rw [if_neg hsign, decide_eq_false hsign, List.nil_append]
    exact takeSign_of_digits isAsciiDigit_of_mem_toDigits

theorem isPlain_of_mem_toString (n : Int) : ∀ c ∈ (toString n).toList, IsPlain c := by
  rw [toList_toString, List.forall_mem_append]
  refine ⟨?_, fun c hc => isPlain_of_digit (isAsciiDigit_of_mem_toDigits c hc)⟩
  intro c hc
  split at hc
  · obtain rfl := List.mem_singleton.mp hc
    exact ⟨by decide, rfl⟩
  · cases hc

/-- An integer that is written in decimal is read back. -/
theorem integer?_toString {n : Int} (h : n.natAbs < 10 ^ maxDigits) :
    integer? (toString n) = some n := by
  have hplain := isPlain_of_mem_toString n
  have hdigits := isAsciiDigit_of_mem_toDigits (n := n.natAbs)
  have hlength : (Nat.toDigits 10 n.natAbs).length ≤ maxDigits :=
    (Nat.length_toDigits_le_iff (by decide) (by decide)).mpr h
  unfold integer?
  rw [map_numeralChar_of_plain hplain, trimBoth_isAsciiBlank_of_plain hplain, takeSign_toString]
  dsimp only
  rw [filter_underscore_of_digits hdigits, isDigitRun_of_digits hdigits Nat.toDigits_ne_nil,
    ofDigits_toDigits, decide_eq_true hlength, Bool.and_self, if_pos rfl]
  by_cases hsign : n < 0
  · rw [decide_eq_true hsign, if_pos rfl]
    congr 1
    omega
  · rw [decide_eq_false hsign, if_neg Bool.false_ne_true]
    congr 1
    omega

end LoadPlan.Number
