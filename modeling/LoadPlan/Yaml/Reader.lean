import LoadPlan.Number.Reader
import LoadPlan.Value.Order
import LoadPlan.Yaml.Layout
import LoadPlan.Yaml.Node

/-!
# Reading YAML

A reader for documents of YAML 1.1: the value of a document is that of its node, and an empty
document is null. A mapping holds first what is merged into it and then its own entries; a key that
comes twice keeps its first place and its last value.
-/

namespace LoadPlan.Yaml

/-! ## Scalars -/

/-- Characters without the underscores between digits. -/
def withoutGaps (cs : List Char) : List Char :=
  cs.filter (· != '_')

/-- A sign before a number, and what follows it; there must be something. -/
def signed (cs : List Char) : Except Problem (Bool × List Char) :=
  match Number.takeSign cs with
  | (_, []) => .error .badNumber
  | found => .ok found

/-- The number that digits write in a base. -/
def inBase (base : Nat) (cs : List Char) : Except Problem Int :=
  let number? := cs.foldlM (fun n c => ((Text.hexDigit? c).filter (· < base)).map (base * n + ·)) 0
  match number? with
  | some n => if cs.isEmpty then .error .badNumber else .ok (n : Nat)
  | none => .error .badNumber

/-- A decimal integer. -/
def decimal (cs : List Char) : Except Problem Int :=
  match Number.integer? (String.ofList cs) with
  | some n => .ok n
  | none => .error .badNumber

/-- The integer without a sign that text writes. -/
def magnitude (cs : List Char) : Except Problem Int :=
  match cs with
  | ['0'] => .ok 0
  | '0' :: 'b' :: rest => inBase 2 rest
  | '0' :: 'x' :: rest => inBase 16 rest
  | '0' :: _ => inBase 8 cs
  | _ =>
    if cs.contains ':' then do
      let parts ← (cs.splitOn ':').mapM decimal
      return parts.foldl (fun n d => 60 * n + d) 0
    else decimal cs

/-- The integer that text writes. -/
def integer (s : String) : Except Problem Int := do
  let (negative, cs) ← signed (withoutGaps s.toList)
  let n ← magnitude cs
  return if negative then -n else n

/-- A decimal number. -/
def fractional (cs : List Char) : Except Problem Binary64 :=
  match Number.float? (String.ofList cs) with
  | some x => .ok x
  | none => .error .badNumber

/-- The sum of numbers times the powers of sixty, the first number times one. -/
def sexagesimalSum (parts : List Binary64) : Binary64 :=
  ((parts.zipIdx).map fun (x, i) => x.scale (Nat.pow 60 i)).foldl .add (.finite false 0 (-1074))

/-- The floating point number that text writes. -/
def floating (s : String) : Except Problem Binary64 := do
  let (negative, cs) ← signed (withoutGaps (s.toList.map Char.toLower))
  let x ←
    if cs == ".inf".toList then pure (.infinite false)
    else if cs == ".nan".toList then pure .nan
    else if cs.contains ':' then do
      let parts ← (cs.splitOn ':').mapM fractional
      pure (sexagesimalSum parts.reverse)
    else fractional cs
  return if negative then x.negate else x

/-- The truth value of a word in any letter case. -/
def truth (s : String) : Except Problem Bool :=
  let word := String.ofList (s.toList.map Char.toLower)
  if trueWords.contains word then .ok true
  else if falseWords.contains word then .ok false
  else .error .noTruthValue

/-- The value of a scalar with a tag. -/
def scalarValue (tag : Tag) (s : String) : Except Problem Value :=
  match tag with
  | .null => .ok .null
  | .bool => (truth s).map .bool
  | .int => (integer s).map .int
  | .float => (floating s).map .float
  | .timestamp =>
    match Timestamp.ofChars? s.toList with
    | some t => if t.isValid then .ok t.value else .error .badNumber
    | none => .error .malformed
  | .text => .ok (.text s)
  | _ => .error .malformed

/-! ## Collections -/

/-- Whether a value can be a key. -/
def isKey : Value → Bool
  | .list _ => false
  | .mapping _ => false
  | _ => true

/-- The entries of a mapping with a value under a key, whatever kind of key it is. -/
def putEntry (entries : Entries) (k v : Value) : Entries :=
  if entries.any fun e => e.1.sameKey k then
    entries.map fun e => if e.1.sameKey k then (e.1, v) else e
  else entries ++ [(k, v)]

/-- The mapping of entries, the later ones taking the place of the earlier. -/
def mappingOf (pairs : List (Value × Value)) : Entries :=
  pairs.foldl (fun entries e => putEntry entries e.1 e.2) []

mutual

/-- The value of a node. -/
def Node.value : Node → Except Problem Value
  | .scalar tag s => scalarValue tag s
  | .sequence tag items => do
    if tag != .sequence then throw .malformed
    return .list (← values items)
  | .mapping tag entries => do
    if tag != .mapping then throw .malformed
    let (merged, own) ← pairs entries
    return .mapping (mappingOf (merged ++ own))

/-- The values of nodes. -/
def values : List Node → Except Problem (List Value)
  | [] => .ok []
  | n :: rest => do
    let v ← n.value
    return v :: (← values rest)

/-- The value of a key. -/
def keyValue : Node → Except Problem Value
  | .scalar .default s => .ok (.text s)
  | n => do
    let v ← n.value
    if isKey v then return v else throw .malformed

/-- The entries that a mapping gets by merging, and its own. -/
def pairs : List (Node × Node) → Except Problem (List (Value × Value) × List (Value × Value))
  | [] => .ok ([], [])
  | (k, v) :: rest => do
    if k.tag == .merge then
      let here ← mergedFrom v
      let (merged, own) ← pairs rest
      return (here ++ merged, own)
    let key ← keyValue k
    let value ← v.value
    let (merged, own) ← pairs rest
    return (merged, (key, value) :: own)

/-- The entries of a node that is merged into a mapping: a mapping, or a sequence of them, in which
the earlier ones count more. -/
def mergedFrom : Node → Except Problem (List (Value × Value))
  | .mapping _ entries => do
    let (merged, own) ← pairs entries
    return merged ++ own
  | .sequence _ items => mergedFromAll items
  | .scalar .. => throw .malformed

/-- The entries of mappings in a sequence that is merged into a mapping, from the last one on. -/
def mergedFromAll : List Node → Except Problem (List (Value × Value))
  | [] => .ok []
  | .mapping _ entries :: rest => do
    let (merged, own) ← pairs entries
    return (← mergedFromAll rest) ++ merged ++ own
  | _ :: _ => throw .malformed

end

/-- The value of a YAML document. -/
def read (cs : List Char) : Except Problem Value := do
  match ← Node.ofTokens? (← tokens cs) with
  | some n => n.value
  | none => return .null

end LoadPlan.Yaml
