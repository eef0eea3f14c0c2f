import LoadPlan.Text.Blank

/-!
# Hosts in brackets

A host in brackets is an IPv6 address, or the letter v with a hexadecimal version, a dot and
anything. `isAddress6` accepts the usual forms of an IPv6 address: eight groups of up to four
hexadecimal digits, a double colon for one run of zero groups, the last two groups as an IPv4
address, and a zone after a percent sign.
-/

namespace LoadPlan.Url

open Text

/-- A hexadecimal digit. -/
def isHexDigit (c : Char) : Bool :=
  isAsciiDigit c || ('a' ≤ c && c ≤ 'f') || ('A' ≤ c && c ≤ 'F')

/-- The number of one to three decimal digits. -/
def decimalValue (cs : List Char) : Nat :=
  cs.foldl (fun n c => 10 * n + (c.toNat - 48)) 0

/-- One of the four numbers of an IPv4 address: at most 255, without leading zeros. -/
def isOctet (cs : List Char) : Bool :=
  !cs.isEmpty && cs.all isAsciiDigit && cs.length ≤ 3 &&
    (cs.head? != some '0' || cs.length == 1) && decimalValue cs ≤ 255

/-- An IPv4 address. -/
def isAddress4 (cs : List Char) : Bool :=
  let octets := cs.splitOn '.'
  octets.length == 4 && octets.all isOctet

/-- One group of an IPv6 address. -/
def isGroup (cs : List Char) : Bool :=
  !cs.isEmpty && cs.length ≤ 4 && cs.all isHexDigit

/-- The places of the empty ones among the groups that stand between the first and the last. -/
def innerGaps (groups : List (List Char)) : List Nat :=
  (List.range groups.length).filter fun i =>
    0 < i && i + 1 < groups.length && (groups.getD i []).isEmpty

/-- Whether the groups on one side of a double colon are all groups; a side may be empty, in which
case its one piece is. -/
def isSide (groups : List (List Char)) : Bool :=
  groups == [[]] || groups.all isGroup

/-- The number of groups on one side of a double colon. -/
def sideCount (groups : List (List Char)) : Nat :=
  if groups == [[]] then 0 else groups.length

/-- Whether pieces between colons are those of an IPv6 address. -/
def areGroups (groups : List (List Char)) : Bool :=
  3 ≤ groups.length && groups.length ≤ 9 &&
    match innerGaps groups with
    | [] => groups.length == 8 && groups.all isGroup
    | [i] =>
      let before := groups.take i
      let after := groups.drop (i + 1)
      isSide before && isSide after && sideCount before + sideCount after < 8
    | _ => false

/-- The pieces of an address between colons, where a last piece with a dot is an IPv4 address and
counts as two groups. -/
def groupsOf (cs : List Char) : Option (List (List Char)) :=
  let pieces := cs.splitOn ':'
  let last := pieces.getLastD []
  if last.contains '.' then
    if 3 ≤ pieces.length && isAddress4 last then some (pieces.dropLast ++ [['0'], ['0']]) else none
  else some pieces

/-- An IPv6 address. -/
def isAddress6 (cs : List Char) : Bool :=
  let address := cs.takeWhile (· != '%')
  let zoned :=
    match cs.dropWhile (· != '%') with
    | [] => true
    | _ :: zone => !zone.isEmpty && !zone.contains '%'
  !cs.contains '/' && zoned &&
    match groupsOf address with
    | some groups => areGroups groups
    | none => false

/-- A host of a later version: the letter v, hexadecimal digits, a dot, and at least one character,
none of them a line feed. -/
def isFutureHost (cs : List Char) : Bool :=
  match cs with
  | 'v' :: rest =>
    match rest.dropWhile isHexDigit with
    | '.' :: more => !(rest.takeWhile isHexDigit).isEmpty && !more.isEmpty && !more.contains '\n'
    | _ => false
  | _ => false

end LoadPlan.Url
