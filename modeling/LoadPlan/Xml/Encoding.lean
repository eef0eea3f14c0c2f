import LoadPlan.Text.Utf8

/-!
# Encodings of documents

A document is read from bytes. Which encoding they begin in is seen from the first two of them, and
the declaration of a document may then name another one that has units of the same size.
-/

namespace LoadPlan.Xml

/-- An encoding that can be read. -/
inductive Encoding where
  | utf8
  | utf16 (bigEndian : Bool)
  /-- One byte for each character; those above ASCII are given from 128 on, as far as there are
  any. -/
  | bytes (upper : List Nat)
  deriving DecidableEq, Repr

/-- The characters of a document, and whether they end inside of one. Bytes that are no character
end them with a noncharacter. -/
structure Decoded where
  chars : List Char
  isCut : Bool := false

/-- The character that stands for bytes which form none. -/
def noncharacter : Char :=
  Char.ofNat 0xffff

/-- Reads UTF-8. -/
def decodeUtf8 (bytes : List UInt8) : Decoded :=
  match Text.Utf8.decodeFrom 0 0 bytes with
  | (cs, none) => ⟨cs, false⟩
  | (cs, some problem) =>
    if problem.reason = .truncated then ⟨cs, true⟩ else ⟨cs ++ [noncharacter], false⟩

/-- The 16-bit units of bytes, and whether a byte is left over. -/
def unitsOf (bigEndian : Bool) : List UInt8 → List Nat × Bool
  | a :: b :: rest =>
    let (units, cut) := unitsOf bigEndian rest
    ((if bigEndian then a.toNat * 256 + b.toNat else b.toNat * 256 + a.toNat) :: units, cut)
  | [_] => ([], true)
  | [] => ([], false)

/-- The characters of 16-bit units. -/
def decodeUnits (cut : Bool) : List Nat → Decoded
  | [] => ⟨[], cut⟩
  | u :: rest =>
    if 0xd800 ≤ u && u < 0xdc00 then
      match rest with
      | [] => ⟨[], true⟩
      | v :: more =>
        if 0xdc00 ≤ v && v < 0xe000 then
          let d := decodeUnits cut more
          { d with chars := Char.ofNat (0x10000 + (u - 0xd800) * 0x400 + (v - 0xdc00)) :: d.chars }
        else ⟨[noncharacter], false⟩
    else if 0xdc00 ≤ u && u < 0xe000 then ⟨[noncharacter], false⟩
    else
      let d := decodeUnits cut rest
      { d with chars := Char.ofNat u :: d.chars }

/-- The character of a byte above ASCII. -/
def upperChar (upper : List Nat) (b : UInt8) : Char :=
  Char.ofNat (upper.getD (b.toNat - 128) 0xffff)

namespace Encoding

/-- Reads bytes in an encoding. -/
def decode (e : Encoding) (input : List UInt8) : Decoded :=
  match e with
  | utf8 => decodeUtf8 input
  | utf16 bigEndian =>
    let (units, cut) := unitsOf bigEndian input
    decodeUnits cut units
  | bytes upper =>
    ⟨input.map fun b => if b < 128 then Char.ofNat b.toNat else upperChar upper b, false⟩

/-- The encoding that bytes begin in. -/
def detect : List UInt8 → Encoding
  | a :: b :: _ =>
    if a = 0xfe && b = 0xff then utf16 true
    else if a = 0xff && b = 0xfe then utf16 false
    else if a = 0 then utf16 true
    else if b = 0 then utf16 false
    else utf8
  | _ => utf8

/-- Whether a single byte is only the beginning of a mark that tells an encoding. -/
def isHalfMark : List UInt8 → Bool
  | [b] => b = 0xfe || b = 0xff || b = 0xef || b = 0
  | _ => false

/-- Whether the units of two encodings have the same size, and the same order of bytes. -/
def agrees : Encoding → Encoding → Bool
  | utf16 a, utf16 b => a == b
  | utf16 _, _ => false
  | _, utf16 _ => false
  | _, _ => true

end Encoding

end LoadPlan.Xml
