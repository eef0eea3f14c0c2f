import LoadPlan.Text.Ranges

/-!
# Disguised delimiters

Characters that Unicode's compatibility normal form turns into a text with one of the delimiters of
a network location (slash, question mark, number sign, at sign, colon), such as the fullwidth colon
or the sign for "account of".
-/

namespace LoadPlan.Text

/-- Where runs of disguised delimiters begin and end. -/
def disguisedBounds : Array Nat :=
  #[0x2047, 0x204a, 0x2100, 0x2102, 0x2105, 0x2107, 0x2a74, 0x2a75, 0xfe13, 0xfe14, 0xfe16, 0xfe17,
   0xfe55, 0xfe57, 0xfe5f, 0xfe60, 0xfe6b, 0xfe6c, 0xff03, 0xff04, 0xff0f, 0xff10, 0xff1a, 0xff1b,
   0xff1f, 0xff21]

/-- A character whose compatibility normal form holds a delimiter of a network location. -/
def isDisguisedDelimiter (c : Char) : Bool :=
  Ranges.mem disguisedBounds c.toNat

end LoadPlan.Text
