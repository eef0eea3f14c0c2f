import LoadPlan.Text.Utf8
import Mathlib

/-!
# Decoding what was encoded

The bytes of a text in UTF-8 decode to the characters of the text (`decodeFrom_toUTF8`). A
character takes one to four bytes: the first byte tells how many follow and bounds the first of
those, and each of the others carries six bits.
-/

namespace LoadPlan.Text.Utf8

/-- A byte that carries six bits of a character. -/
def continuation (n : Nat) : UInt8 :=
  UInt8.ofNat (n % 64 + 128)

@[simp]
theorem continuation_toNat (n : Nat) : (continuation n).toNat = n % 64 + 128 := by
  rw [continuation, UInt8.toNat_ofNat', Nat.mod_eq_of_lt (by omega)]

theorem takeTail_cons {low high b : UInt8} (hlow : low.toNat ≤ b.toNat)
    (hhigh : b.toNat ≤ high.toNat) (code taken count : Nat) (rest : List UInt8) :
    takeTail code taken (count + 1) low high (b :: rest) =
      takeTail (code * 64 + (b.toNat - 128)) (taken + 1) count 0x80 0xbf rest := by
  have h : (low ≤ b && b ≤ high) = true := by
    simp [UInt8.le_iff_toNat_le, hlow, hhigh]
  rw [takeTail, if_pos h]

/-- A continuation byte that is bounded only as all of them are adds its six bits. -/
theorem takeTail_continuation (code taken count n : Nat) (rest : List UInt8) :
    takeTail code taken (count + 1) 0x80 0xbf (continuation n :: rest) =
      takeTail (code * 64 + n % 64) (taken + 1) count 0x80 0xbf rest := by
  rw [takeTail_cons (by simp)
    (by rw [continuation_toNat]; simp; omega), continuation_toNat, Nat.add_sub_cancel]

/-! ## First bytes -/

theorem tailOf_two {n : Nat} (hlow : 2 ≤ n) (hhigh : n < 32) :
    tailOf (UInt8.ofNat (n + 192)) = some (1, 0x80, 0xbf) := by
  interval_cases n <;> rfl

theorem tailOf_three {n : Nat} (h : n < 16) :
    tailOf (UInt8.ofNat (n + 224)) =
      some (2, if n = 0 then 0xa0 else 0x80, if n = 13 then 0x9f else 0xbf) := by
  interval_cases n <;> rfl

theorem tailOf_four {n : Nat} (h : n < 5) :
    tailOf (UInt8.ofNat (n + 240)) =
      some (3, if n = 0 then 0x90 else 0x80, if n = 4 then 0x8f else 0xbf) := by
  interval_cases n <;> rfl

/-! ## One character -/

theorem decodeFrom_skip (position : Nat) (skipped rest : List UInt8) :
    decodeFrom position skipped.length (skipped ++ rest) =
      decodeFrom (position + skipped.length) 0 rest := by
  induction skipped generalizing position with
  | nil => rfl
  | cons b skipped ih =>
    rw [List.length_cons, List.cons_append, decodeFrom, ih]
    congr 1
    omega

/-- A first byte and the bytes that belong to it make a character. -/
theorem decodeFrom_lead {b low high : UInt8} (tail : List UInt8) {code : Nat} (hb : ¬ b < 0x80)
    (hof : tailOf b = some (tail.length, low, high))
    (htail : ∀ rest,
      takeTail (leadBits b tail.length) 1 tail.length low high (tail ++ rest) = .ok code)
    (position : Nat) (rest : List UInt8) :
    decodeFrom position 0 (b :: (tail ++ rest)) =
      (Char.ofNat code :: (decodeFrom (position + 1 + tail.length) 0 rest).1,
        (decodeFrom (position + 1 + tail.length) 0 rest).2) := by
  simp only [decodeFrom, if_neg hb, hof, htail, decodeFrom_skip]

theorem decodeFrom_two {v : Nat} (hlow : 0x80 ≤ v) (hhigh : v < 0x800) (position : Nat)
    (rest : List UInt8) :
    decodeFrom position 0 (UInt8.ofNat (v / 64 % 32 + 192) :: continuation v :: rest) =
      (Char.ofNat v :: (decodeFrom (position + 2) 0 rest).1,
        (decodeFrom (position + 2) 0 rest).2) := by
  have hlead : (UInt8.ofNat (v / 64 % 32 + 192)).toNat = v / 64 % 32 + 192 := by
    rw [UInt8.toNat_ofNat', Nat.mod_eq_of_lt (by omega)]
  refine decodeFrom_lead [continuation v] ?_ (tailOf_two (by omega) (by omega)) ?_
    position rest
  · rw [UInt8.lt_iff_toNat_lt, hlead]
    simp
  · intro rest
    rw [List.length_singleton, List.singleton_append, takeTail_continuation, takeTail, leadBits,
      hlead]
    congr 1
    omega

theorem decodeFrom_three {v : Nat} (hlow : 0x800 ≤ v) (hhigh : v < 0x10000)
    (hgap : v < 0xd800 ∨ 0xdfff < v) (position : Nat) (rest : List UInt8) :
    decodeFrom position 0
        (UInt8.ofNat (v / 4096 % 16 + 224) :: continuation (v / 64) :: continuation v :: rest) =
      (Char.ofNat v :: (decodeFrom (position + 3) 0 rest).1,
        (decodeFrom (position + 3) 0 rest).2) := by
  have hlead : (UInt8.ofNat (v / 4096 % 16 + 224)).toNat = v / 4096 % 16 + 224 := by
    rw [UInt8.toNat_ofNat', Nat.mod_eq_of_lt (by omega)]
  refine decodeFrom_lead [continuation (v / 64), continuation v] ?_
    (tailOf_three (by omega)) ?_ position rest
  · rw [UInt8.lt_iff_toNat_lt, hlead]
    simp
  · intro rest
    simp only [List.length_cons, List.length_nil, List.cons_append, List.nil_append]
    rw [takeTail_cons, takeTail_continuation, takeTail, leadBits, hlead, continuation_toNat]
    · congr 1
      omega
    · rw [continuation_toNat]
      split <;> simp
      omega
    · rw [continuation_toNat]
      split <;> simp <;> omega

theorem decodeFrom_four {v : Nat} (hlow : 0x10000 ≤ v) (hhigh : v < 0x110000) (position : Nat)
    (rest : List UInt8) :
    decodeFrom position 0
        (UInt8.ofNat (v / 262144 % 8 + 240) :: continuation (v / 4096) :: continuation (v / 64) ::
          continuation v :: rest) =
      (Char.ofNat v :: (decodeFrom (position + 4) 0 rest).1,
        (decodeFrom (position + 4) 0 rest).2) := by
  have hlead : (UInt8.ofNat (v / 262144 % 8 + 240)).toNat = v / 262144 % 8 + 240 := by
    rw [UInt8.toNat_ofNat', Nat.mod_eq_of_lt (by omega)]
  refine decodeFrom_lead [continuation (v / 4096), continuation (v / 64), continuation v]
    ?_ (tailOf_four (by omega)) ?_ position rest
  · rw [UInt8.lt_iff_toNat_lt, hlead]
    simp
  · intro rest
    simp only [List.length_cons, List.length_nil, List.cons_append, List.nil_append]
    rw [takeTail_cons, takeTail_continuation, takeTail_continuation, takeTail, leadBits, hlead,
      continuation_toNat]
    · congr 1
      omega
    · simp
    · simp
    · rw [continuation_toNat]
      split <;> simp
      omega
    · rw [continuation_toNat]
      split <;> simp <;> omega

/-- The bytes of a character decode to it. -/
theorem decodeFrom_utf8EncodeChar (c : Char) (position : Nat) (rest : List UInt8) :
    decodeFrom position 0 (String.utf8EncodeChar c ++ rest) =
      (c :: (decodeFrom (position + (String.utf8EncodeChar c).length) 0 rest).1,
        (decodeFrom (position + (String.utf8EncodeChar c).length) 0 rest).2) := by
  have hc : Char.ofNat c.val.toNat = c := Char.ofNat_toNat c
  have hvalid : c.val.toNat < 0xd800 ∨ 0xdfff < c.val.toNat ∧ c.val.toNat < 0x110000 := c.valid
  fun_cases String.utf8EncodeChar with
  | case1 v h =>
    have hb : (UInt8.ofNat v).toNat = v := by
      rw [UInt8.toNat_ofNat', Nat.mod_eq_of_lt (by omega)]
    have hlt : UInt8.ofNat v < 0x80 := by
      rw [UInt8.lt_iff_toNat_lt, hb]
      simp
      omega
    simp only [List.singleton_append, decodeFrom, if_pos hlt, hb, List.length_singleton]
    rw [hc]
  | case2 v h1 h2 =>
    have := decodeFrom_two (v := v) (by omega) (by omega) position rest
    rwa [hc] at this
  | case3 v h1 h2 h3 =>
    have := decodeFrom_three (v := v) (by omega) (by omega) (by omega) position rest
    rwa [hc] at this
  | case4 v h1 h2 h3 =>
    have := decodeFrom_four (v := v) (by omega) (by omega) position rest
    rwa [hc] at this

/-! ## Texts -/

theorem decodeFrom_flatMap (cs : List Char) (position : Nat) :
    decodeFrom position 0 (cs.flatMap String.utf8EncodeChar) = (cs, none) := by
  induction cs generalizing position with
  | nil => rfl
  | cons c cs ih => rw [List.flatMap_cons, decodeFrom_utf8EncodeChar, ih]

/-- The bytes of a text. -/
theorem toUTF8_bytes (s : String) :
    s.toUTF8.data.toList = s.toList.flatMap String.utf8EncodeChar := by
  rw [String.toUTF8_eq_toByteArray, ← String.utf8Encode_toList, List.utf8Encode,
    List.toList_data_toByteArray]

/-- The bytes of a text decode to its characters. -/
@[simp]
theorem decodeFrom_toUTF8 (s : String) (position : Nat) :
    decodeFrom position 0 s.toUTF8.data.toList = (s.toList, none) := by
  rw [toUTF8_bytes, decodeFrom_flatMap]

end LoadPlan.Text.Utf8
