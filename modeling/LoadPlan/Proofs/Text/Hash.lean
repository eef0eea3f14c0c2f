import LoadPlan.Text.Units
import Mathlib

/-!
# The hash of a text as a polynomial

A text has one form in sixteen-bit units (`writes_iff`). Its hash is the one integer of 32 bits with
a sign that is congruent to the polynomial with coefficient 31 over these units (`hash_eq_iff`): the
fold that computes it adds one power more for each unit that follows (`foldl_hashStep`), and taking
residues commutes with that.
-/

namespace LoadPlan.Text

/-! ## Sixteen-bit units -/

/-- Units that write characters: one unit for a character of the basic plane, a pair of surrogates
with ten bits each for any other. -/
inductive Writes : List Nat → List Char → Prop where
  | nil : Writes [] []
  | basic {c : Char} {us : List Nat} {cs : List Char} (hc : c.toNat < 0x10000)
    (rest : Writes us cs) : Writes (c.toNat :: us) (c :: cs)
  | pair {c : Char} {high low : Nat} {us : List Nat} {cs : List Char}
    (hhigh : 0xd800 ≤ high ∧ high < 0xdc00) (hlow : 0xdc00 ≤ low ∧ low < 0xe000)
    (hc : c.toNat = 0x10000 + (high - 0xd800) * 0x400 + (low - 0xdc00))
    (rest : Writes us cs) : Writes (high :: low :: us) (c :: cs)

theorem units_of_basic {c : Char} (hc : c.toNat < 0x10000) : units c = [c.toNat] :=
  if_pos hc

theorem writes_units (c : Char) {us : List Nat} {cs : List Char} (rest : Writes us cs) :
    Writes (units c ++ us) (c :: cs) := by
  have hvalid : c.val.toNat < 0xd800 ∨ 0xdfff < c.val.toNat ∧ c.val.toNat < 0x110000 := c.valid
  have hmax : c.toNat < 0x110000 := by
    change c.val.toNat < 0x110000
    omega
  by_cases hc : c.toNat < 0x10000
  · rw [units_of_basic hc]
    exact .basic hc rest
  · unfold units
    rw [if_neg hc]
    exact .pair (by omega) (by omega) (by omega) rest

theorem units_of_pair {c : Char} {high low : Nat} (hhigh : 0xd800 ≤ high ∧ high < 0xdc00)
    (hlow : 0xdc00 ≤ low ∧ low < 0xe000)
    (hc : c.toNat = 0x10000 + (high - 0xd800) * 0x400 + (low - 0xdc00)) :
    units c = [high, low] := by
  have hfirst : 0xd800 + (c.toNat - 0x10000) / 0x400 = high := by omega
  have hsecond : 0xdc00 + (c.toNat - 0x10000) % 0x400 = low := by omega
  unfold units
  rw [if_neg (by omega), hfirst, hsecond]

/-- Characters are written by their units and by no others. -/
theorem writes_iff {us : List Nat} {cs : List Char} : Writes us cs ↔ us = cs.flatMap units := by
  constructor
  · intro h
    induction h with
    | nil => rfl
    | basic hc _ ih =>
      rw [List.flatMap_cons, ← ih, units_of_basic hc]
      rfl
    | pair hhigh hlow hc _ ih =>
      rw [List.flatMap_cons, ← ih, units_of_pair hhigh hlow hc]
      rfl
  · rintro rfl
    induction cs with
    | nil => exact .nil
    | cons c cs ih => exact writes_units c ih

/-! ## The hash -/

/-- The polynomial with coefficient 31 over units, the first of which has the highest power. -/
def polynomial (us : List Nat) : Nat :=
  ∑ i : Fin us.length, us[i] * 31 ^ (us.length - 1 - i)

theorem polynomial_cons (u : Nat) (us : List Nat) :
    polynomial (u :: us) = u * 31 ^ us.length + polynomial us := by
  unfold polynomial
  have hrest (i : Fin us.length) : (u :: us)[i.succ] * 31 ^ ((u :: us).length - 1 - i.succ) =
      us[i] * 31 ^ (us.length - 1 - i) := by
    have hpower : (u :: us).length - 1 - i.succ.val = us.length - 1 - i := by
      simp only [List.length_cons, Fin.val_succ]
      omega
    rw [hpower]
    rfl
  rw [← Finset.sum_congr rfl fun i _ => hrest i]
  exact Fin.sum_univ_succ fun i : Fin (u :: us).length =>
    (u :: us)[i] * 31 ^ ((u :: us).length - 1 - i)

/-- A hash that goes on over units. -/
theorem foldl_hashStep (h : Nat) (us : List Nat) :
    us.foldl hashStep (BitVec.ofNat 32 h) =
      BitVec.ofNat 32 (h * 31 ^ us.length + polynomial us) := by
  induction us generalizing h with
  | nil => simp [polynomial]
  | cons u us ih =>
    have hstep : hashStep (BitVec.ofNat 32 h) u = BitVec.ofNat 32 (31 * h + u) := by
      rw [hashStep, BitVec.ofNat_add, BitVec.ofNat_mul]
      rfl
    rw [List.foldl_cons, hstep, ih, polynomial_cons, List.length_cons]
    congr 1
    ring

theorem hash_eq (s : String) :
    hash s = (polynomial (s.toList.flatMap units) : Int).bmod (2 ^ 32) := by
  have hfold := foldl_hashStep 0 (s.toList.flatMap units)
  rw [Nat.zero_mul, Nat.zero_add] at hfold
  calc hash s = ((s.toList.flatMap units).foldl hashStep (BitVec.ofNat 32 0)).toInt := rfl
    _ = _ := by rw [hfold, BitVec.toInt_ofNat']

/-- A balanced residue is the one number of its range that is congruent. -/
theorem eq_bmod_iff {n x : Int} : n = x.bmod (2 ^ 32) ↔
    -2 ^ 31 ≤ n ∧ n < 2 ^ 31 ∧ n ≡ x [ZMOD 2 ^ 32] := by
  rw [eq_comm, Int.bmod_eq_iff (by norm_num), Int.modEq_comm, Int.modEq_iff_dvd]
  norm_num

/-- The hash of a text is the one integer from `-2 ^ 31` below `2 ^ 31` that is congruent, modulo
`2 ^ 32`, to the polynomial over the units which write the text. -/
theorem hash_eq_iff (s : String) : ∃ us, (∀ vs, Writes vs s.toList ↔ vs = us) ∧
    ∀ n : Int, n = hash s ↔ -2 ^ 31 ≤ n ∧ n < 2 ^ 31 ∧
      n ≡ ∑ i : Fin us.length, (us[i] : Int) * 31 ^ (us.length - 1 - i) [ZMOD 2 ^ 32] := by
  refine ⟨s.toList.flatMap units, fun vs => writes_iff, fun n => ?_⟩
  have hcast : (polynomial (s.toList.flatMap units) : Int) = _ := Nat.cast_sum _ _
  rw [hash_eq, eq_bmod_iff, hcast]
  simp only [Nat.cast_mul, Nat.cast_pow, Nat.cast_ofNat]

example : hash "polygenelubricants" = -2 ^ 31 := by decide +kernel

end LoadPlan.Text
