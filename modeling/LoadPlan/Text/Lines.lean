/-!
# Lines

Line ends come as line feed, carriage return, or both; a text file is read with all of them as line
feeds.
-/

namespace LoadPlan.Text

/-- Characters with every line end written as a line feed. -/
def unifyLineEnds : List Char → List Char
  | [] => []
  | '\r' :: '\n' :: rest => '\n' :: unifyLineEnds rest
  | '\r' :: rest => '\n' :: unifyLineEnds rest
  | c :: rest => c :: unifyLineEnds rest

/-- The number of the line after `cs`, from 1. -/
def lineAfter (cs : List Char) : Nat :=
  cs.count '\n' + 1

/-- The characters of the last line of `cs`. -/
def lastLine (cs : List Char) : List Char :=
  (cs.reverse.takeWhile (· != '\n')).reverse

end LoadPlan.Text
