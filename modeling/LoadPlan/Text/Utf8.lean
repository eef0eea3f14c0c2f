/-!
# Reading UTF-8

A strict decoder of UTF-8. A file that is not UTF-8 is refused with the place of the first bytes
that do not form a character and the reason.
-/

namespace LoadPlan.Text.Utf8

/-- Why bytes do not form a character. -/
inductive Reason where
  | start
  | continuation
  | truncated
  deriving DecidableEq, Repr

/-- The first bytes that do not form a character: where they begin, how many they are, the first of
them and why they are refused. -/
structure Problem where
  position : Nat
  count : Nat
  byte : UInt8
  reason : Reason
  deriving DecidableEq, Repr

/-- The wording of a reason. -/
def Reason.message : Reason → String
  | .start => "invalid start byte"
  | .continuation => "invalid continuation byte"
  | .truncated => "unexpected end of data"

/-- A byte in two hexadecimal digits. -/
def hexByte (b : UInt8) : String :=
  let digits := Nat.toDigits 16 b.toNat
  String.ofList (List.replicate (2 - digits.length) '0' ++ digits)

/-- The wording of a problem. -/
def Problem.message (p : Problem) : String :=
  if p.count = 1 then
    s!"'utf-8' codec can't decode byte 0x{hexByte p.byte} in position {p.position}: " ++
      p.reason.message
  else
    s!"'utf-8' codec can't decode bytes in position {p.position}-{p.position + p.count - 1}: " ++
      p.reason.message

/-- The bytes that may follow a first byte: how many, and the bounds of the first of them. -/
def tailOf (b : UInt8) : Option (Nat × UInt8 × UInt8) :=
  if 0xc2 ≤ b && b ≤ 0xdf then some (1, 0x80, 0xbf)
  else if b == 0xe0 then some (2, 0xa0, 0xbf)
  else if b == 0xed then some (2, 0x80, 0x9f)
  else if 0xe1 ≤ b && b ≤ 0xef then some (2, 0x80, 0xbf)
  else if b == 0xf0 then some (3, 0x90, 0xbf)
  else if b == 0xf4 then some (3, 0x80, 0x8f)
  else if 0xf1 ≤ b && b ≤ 0xf3 then some (3, 0x80, 0xbf)
  else none

/-- The code point after `count` continuation bytes between `low` and `high`, then between the
usual bounds; else how many bytes fit and why the next does not. -/
def takeTail (code : Nat) (taken : Nat) : Nat → UInt8 → UInt8 → List UInt8 →
    Except (Nat × Reason) Nat
  | 0, _, _, _ => .ok code
  | _ + 1, _, _, [] => .error (taken, .truncated)
  | count + 1, low, high, b :: rest =>
    if low ≤ b && b ≤ high then
      takeTail (code * 64 + (b.toNat - 0x80)) (taken + 1) count 0x80 0xbf rest
    else .error (taken, .continuation)

/-- The bits of a first byte that belong to the code point, by the number of bytes that follow. -/
def leadBits (b : UInt8) : Nat → Nat
  | 1 => b.toNat % 32
  | 2 => b.toNat % 16
  | _ => b.toNat % 8

/-- The characters of the bytes from `position` on, until the first problem. `skip` bytes belong to
the character before. -/
def decodeFrom (position : Nat) : Nat → List UInt8 → List Char × Option Problem
  | _, [] => ([], none)
  | skip + 1, _ :: rest => decodeFrom (position + 1) skip rest
  | 0, b :: rest =>
    if b < 0x80 then
      let (cs, problem) := decodeFrom (position + 1) 0 rest
      (Char.ofNat b.toNat :: cs, problem)
    else
      match tailOf b with
      | none => ([], some ⟨position, 1, b, .start⟩)
      | some (count, low, high) =>
        match takeTail (leadBits b count) 1 count low high rest with
        | .error (taken, reason) => ([], some ⟨position, taken, b, reason⟩)
        | .ok code =>
          let (cs, problem) := decodeFrom (position + 1) count rest
          (Char.ofNat code :: cs, problem)

/-- The text of bytes in UTF-8. -/
def decode (bytes : List UInt8) : Except Problem (List Char) :=
  match decodeFrom 0 0 bytes with
  | (cs, none) => .ok cs
  | (_, some problem) => .error problem

end LoadPlan.Text.Utf8
