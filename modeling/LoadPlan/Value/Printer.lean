import LoadPlan.Value.Basic
import LoadPlan.Number.Reader
import LoadPlan.Number.Shortest
import LoadPlan.Text.Quoted

/-!
# The text of a value

A value has two texts: the one it is written as on its own (`display`), where a text stands for
itself, and the one it has inside a list or mapping and in messages (`literal`), where a text is
quoted. An integer is only written up to a number of digits (`isWritable`).
-/

namespace LoadPlan.Value

/-- Floating point numbers have an exponent below `0.0001` and from `1e+16` on. -/
def floatLayout : Binary64.FloatLayout where
  positionalFrom := -3
  positionalTo := 16
  exponentWidth := 2
  nan := "nan"
  infinity := "inf"

mutual

/-- The text of a value in messages and containers. -/
def literal : Value → String
  | .null => "None"
  | .bool true => "True"
  | .bool false => "False"
  | .int n => toString n
  | .float x => x.render floatLayout
  | .text s => Text.quoted s
  | .list items => "[" ++ String.intercalate ", " (literalItems items) ++ "]"
  | .mapping entries => "\x7b" ++ String.intercalate ", " (literalEntries entries) ++ "\x7d"
  | .other _ _ literal => literal

/-- The texts of the items of a list. -/
def literalItems : List Value → List String
  | [] => []
  | v :: rest => v.literal :: literalItems rest

/-- The texts of the entries of a mapping. -/
def literalEntries : List (Value × Value) → List String
  | [] => []
  | (k, v) :: rest => (k.literal ++ ": " ++ v.literal) :: literalEntries rest

end

/-- The text of a value on its own. -/
def display : Value → String
  | .text s => s
  | .other _ display _ => display
  | v => v.literal

mutual

/-- Whether a value can be written: no integer in it has more digits than are written. -/
def isWritable : Value → Bool
  | .int n => n.natAbs < Nat.pow 10 Number.maxDigits
  | .list items => itemsAreWritable items
  | .mapping entries => entriesAreWritable entries
  | _ => true

/-- Whether the items of a list can be written. -/
def itemsAreWritable : List Value → Bool
  | [] => true
  | v :: rest => v.isWritable && itemsAreWritable rest

/-- Whether the entries of a mapping can be written. -/
def entriesAreWritable : List (Value × Value) → Bool
  | [] => true
  | (k, v) :: rest => k.isWritable && v.isWritable && entriesAreWritable rest

end

end LoadPlan.Value
