import LoadPlan.Text.Blank

/-!
# Text on a terminal

Messages are shown through markup in which a word in brackets sets a style. Text that is put into
markup is escaped first, so that brackets show as they are. Two traces of this remain: a backslash
before a bracket that starts no style is lost, and a single backslash at the end is doubled.
-/

namespace LoadPlan.Text

/-- A character with which a style can start. -/
def startsStyle (c : Char) : Bool :=
  ('a' ≤ c && c ≤ 'z') || c == '#' || c == '/' || c == '@'

/-- Whether what follows an opening bracket is a style up to a closing one. -/
def isStyle : List Char → Bool
  | [] => false
  | c :: rest => startsStyle c && (rest.dropWhile fun d => d != '[' && d != ']').head? == some ']'

/-- Characters without the backslashes that are lost. -/
def loseBackslashes : List Char → List Char
  | [] => []
  | '\\' :: '[' :: rest =>
    if isStyle rest then '\\' :: '[' :: loseBackslashes rest else '[' :: loseBackslashes rest
  | c :: rest => c :: loseBackslashes rest

/-- Characters with a single backslash at the end doubled. -/
def doubleLastBackslash (cs : List Char) : List Char :=
  match cs.reverse with
  | ['\\'] => ['\\', '\\']
  | '\\' :: c :: _ => if c == '\\' then cs else cs ++ ['\\']
  | _ => cs

/-- A control character that a terminal does not show: the bell, the backspace, and those that move
the cursor without ending a line. -/
def isUnshown (c : Char) : Bool :=
  [7, 8, 11, 12, 13].contains c.toNat

/-- A text as markup shows it. -/
def shown (s : String) : String :=
  String.ofList ((doubleLastBackslash (loseBackslashes s.toList)).filter (!isUnshown ·))

/-- Characters with spaces in place of tabs, up to the next multiple of eight columns. -/
def expandTabs (column : Nat) : List Char → List Char
  | [] => []
  | '\t' :: rest =>
    let width := 8 - column % 8
    List.replicate width ' ' ++ expandTabs (column + width) rest
  | c :: rest => c :: expandTabs (column + 1) rest

/-- The lines of a text, with spaces in place of tabs. -/
def shownLines (s : String) : List String :=
  (s.toList.splitOn '\n').map fun cs => String.ofList (expandTabs 0 cs)

/-- A text without the white space at its ends. -/
def trim (s : String) : String :=
  String.ofList (trimBoth isBlank s.toList)

/-- The item at an index of each list, empty where a list is too short. -/
def rowAt (cells : List (List String)) (i : Nat) : List String :=
  cells.map fun lines => ((lines[i]?).getD "")

/-- The lines of a row of a table: a cell can have several lines, and bars stand between cells. -/
def tableRow (cells : List String) : List String :=
  let columns := cells.map shownLines
  let height := (columns.map List.length).foldl max 1
  (List.range height).map fun i => String.intercalate " | " ((rowAt columns i).map trim)

end LoadPlan.Text
