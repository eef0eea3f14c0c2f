import LoadPlan.Value.Basic
import LoadPlan.Yaml.Tag

/-!
# Dates and times in YAML

A date, or a date and a time of day with an optional fraction of a second and distance from
universal time.
-/

namespace LoadPlan.Yaml

/-- A time of day. The distance from universal time is in minutes. -/
structure Clock where
  hour : Nat
  minute : Nat
  second : Nat
  microsecond : Nat := 0
  zone : Option Int := none
  deriving DecidableEq, Repr

/-- A date, perhaps with a time of day. -/
structure Timestamp where
  year : Nat
  month : Nat
  day : Nat
  clock : Option Clock := none
  /-- Whether the month and the day are written with two digits. -/
  isFull : Bool
  deriving DecidableEq, Repr

namespace Timestamp

/-- The number that digits write. -/
def number (cs : List Char) : Nat :=
  cs.foldl (fun n c => 10 * n + (c.toNat - 48)) 0

/-- A run of digits, with at least `least` and at most `most` of them. -/
def digits? (least most : Nat) (cs : List Char) : Option (List Char × List Char) :=
  let run := (cs.takeWhile Text.isAsciiDigit).take most
  if run.length < least then none else some (run, cs.drop run.length)

/-- What follows a character. -/
def after? (c : Char) : List Char → Option (List Char)
  | d :: rest => if c == d then some rest else none
  | [] => none

/-- Two digits after a colon. -/
def sixtieth? (cs : List Char) : Option (Nat × List Char) := do
  let rest ← after? ':' cs
  let (run, rest) ← digits? 2 2 rest
  return (number run, rest)

/-- The microseconds after a point: the first six digits of the fraction. -/
def fraction (cs : List Char) : Nat × List Char :=
  match cs with
  | '.' :: rest =>
    let run := rest.takeWhile Text.isAsciiDigit
    (number ((run ++ List.replicate 6 '0').take 6), rest.drop run.length)
  | _ => (0, cs)

/-- The distance from universal time that ends a timestamp. -/
def zone? (cs : List Char) : Option (Option Int) :=
  match cs with
  | [] => some none
  | _ =>
    match cs.dropWhile (fun c => c == ' ' || c == '\t') with
    | ['Z'] => some (some 0)
    | s :: rest =>
      if s == '+' || s == '-' then do
        let (hours, rest) ← digits? 1 2 rest
        let minutes ← if rest.isEmpty then pure 0 else do
          let (minutes, rest) ← sixtieth? rest
          if rest.isEmpty then pure minutes else none
        let distance : Int := 60 * number hours + minutes
        return some (if s == '-' then -distance else distance)
      else none
    | [] => none

/-- The time of day after a date, behind a letter or blanks. -/
def clock? (cs : List Char) : Option Clock := do
  let blanks := cs.takeWhile fun c => c == ' ' || c == '\t'
  let cs ←
    match cs with
    | 'T' :: rest => some rest
    | 't' :: rest => some rest
    | _ => if blanks.isEmpty then none else some (cs.drop blanks.length)
  let (hour, cs) ← digits? 1 2 cs
  let (minute, cs) ← sixtieth? cs
  let (second, cs) ← sixtieth? cs
  let (microsecond, cs) := fraction cs
  let zone ← zone? cs
  return { hour := number hour, minute, second, microsecond, zone }

/-- The timestamp that text writes. -/
def ofChars? (cs : List Char) : Option Timestamp := do
  let (year, cs) ← digits? 4 4 cs
  let cs ← after? '-' cs
  let (month, cs) ← digits? 1 2 cs
  let cs ← after? '-' cs
  let (day, cs) ← digits? 1 2 cs
  let clock ← if cs.isEmpty then pure none else (clock? cs).map some
  return { year := number year, month := number month, day := number day, clock,
           isFull := month.length == 2 && day.length == 2 }

/-- Whether plain text with this timestamp is read as one: a bare date is written in full. -/
def isPlain (t : Timestamp) : Bool :=
  t.isFull || t.clock.isSome

/-- Whether a year has a leap day. -/
def isLeap (year : Nat) : Bool :=
  year % 4 == 0 && (year % 100 != 0 || year % 400 == 0)

/-- The number of days of a month. -/
def daysOf (year month : Nat) : Nat :=
  if month == 2 then (if isLeap year then 29 else 28)
  else if [4, 6, 9, 11].contains month then 30
  else 31

/-- Whether a time of day is on the clock. -/
def isOnClock (c : Clock) : Bool :=
  c.hour < 24 && c.minute < 60 && c.second < 60 && c.zone.all fun z => z.natAbs < 1440

/-- Whether a timestamp is in the calendar. -/
def isValid (t : Timestamp) : Bool :=
  1 ≤ t.year && 1 ≤ t.month && t.month ≤ 12 && 1 ≤ t.day && t.day ≤ daysOf t.year t.month &&
    t.clock.all isOnClock

/-- A number with at least some digits. -/
def padded (width n : Nat) : String :=
  let digits := toString n
  "".pushn '0' (width - digits.length) ++ digits

/-- The date of a timestamp. -/
def dateText (t : Timestamp) : String :=
  padded 4 t.year ++ "-" ++ padded 2 t.month ++ "-" ++ padded 2 t.day

/-- The text of a distance from universal time. -/
def zoneText (z : Int) : String :=
  (if z < 0 then "-" else "+") ++ padded 2 (z.natAbs / 60) ++ ":" ++ padded 2 (z.natAbs % 60)

/-- The text of a time of day. -/
def clockText (c : Clock) : String :=
  padded 2 c.hour ++ ":" ++ padded 2 c.minute ++ ":" ++ padded 2 c.second ++
    (if c.microsecond == 0 then "" else "." ++ padded 6 c.microsecond) ++
    (c.zone.elim "" zoneText)

/-- The distance from universal time, written as a value in a list. -/
def zoneLiteral (z : Int) : String :=
  if z == 0 then "datetime.timezone.utc"
  else if z < 0 then
    "datetime.timezone(datetime.timedelta(days=-1, seconds=" ++ toString (86400 + 60 * z) ++ "))"
  else "datetime.timezone(datetime.timedelta(seconds=" ++ toString (60 * z) ++ "))"

/-- The parts of a time of day, written as values in a list; seconds are left out if they are
zero. -/
def clockLiteral (c : Clock) : String :=
  ", " ++ toString c.hour ++ ", " ++ toString c.minute ++
    (if c.microsecond != 0 then ", " ++ toString c.second ++ ", " ++ toString c.microsecond
    else if c.second != 0 then ", " ++ toString c.second
    else "") ++
    (c.zone.elim "" fun z => ", tzinfo=" ++ zoneLiteral z)

/-- The date, written as values in a list. -/
def dateLiteral (t : Timestamp) : String :=
  toString t.year ++ ", " ++ toString t.month ++ ", " ++ toString t.day

/-- The value of a timestamp. -/
def value (t : Timestamp) : Value :=
  match t.clock with
  | none => .other "date" t.dateText ("datetime.date(" ++ t.dateLiteral ++ ")")
  | some c =>
    .other "datetime" (t.dateText ++ " " ++ clockText c)
      ("datetime.datetime(" ++ t.dateLiteral ++ clockLiteral c ++ ")")

end Timestamp

/-! ## What a scalar stands for -/

/-- The tag of plain text. -/
def Tag.ofPlain (cs : List Char) : Tag :=
  let s := String.ofList cs
  if nullWords.contains s then .null
  else if trueWords.contains s || falseWords.contains s then .bool
  else if s == "<<" then .merge
  else if s == "=" then .default
  else if looksFloat cs then .float
  else if looksInt cs then .int
  else if (Timestamp.ofChars? cs).any Timestamp.isPlain then .timestamp
  else .text

/-- The tag of a scalar with a tag that may be written. -/
def Tag.ofScalar (written : Option WrittenTag) (text : String) (plain : Bool) : Tag :=
  match written with
  | some (.full tag) => tag
  | some .plain => Tag.ofPlain text.toList
  | none => if plain then Tag.ofPlain text.toList else .text

/-- The tag of a collection with a tag that may be written. -/
def Tag.ofCollection (written : Option WrittenTag) (usual : Tag) : Tag :=
  match written with
  | some (.full tag) => tag
  | _ => usual

end LoadPlan.Yaml
