import LoadPlan.Text.Lines
import LoadPlan.Xml.Chars
import LoadPlan.Xml.Node

/-!
# Writing XML

A tree is written in one of two layouts. The compact one puts nothing between its parts and keeps
tabs and line ends of attributes as character references. The indented one puts each piece of
content on a line of its own, except that a text which is all an element holds stays beside the
tags.
-/

namespace LoadPlan.Xml

/-- Characters with each of some written as something else. -/
def escapeWith (table : Char → Option String) (s : String) : String :=
  String.join (s.toList.map fun c => (table c).getD (String.singleton c))

/-- What is written for a character that is markup in a text. -/
def textEscape? : Char → Option String
  | '&' => some "&amp;"
  | '<' => some "&lt;"
  | '>' => some "&gt;"
  | _ => none

/-- What is written for a character that is markup in an attribute. -/
def attributeEscape? : Char → Option String
  | '"' => some "&quot;"
  | c => textEscape? c

/-- What is written in an attribute for a character that would be read as markup or white space. -/
def blankEscape? : Char → Option String
  | '\r' => some "&#13;"
  | '\n' => some "&#10;"
  | '\t' => some "&#09;"
  | c => attributeEscape? c

/-- Attributes, each after a space. -/
def printAttributes (escape : Char → Option String) (attributes : List (String × String)) :
    String :=
  String.join (attributes.map fun a => " " ++ a.1 ++ "=\"" ++ escapeWith escape a.2 ++ "\"")

mutual

/-- A node in the compact layout. -/
def Node.compact : Node → String
  | .text s => escapeWith textEscape? s
  | .element tag attributes [] => "<" ++ tag ++ printAttributes blankEscape? attributes ++ " />"
  | .element tag attributes (n :: rest) =>
    "<" ++ tag ++ printAttributes blankEscape? attributes ++ ">" ++ compactAll (n :: rest) ++
      "</" ++ tag ++ ">"

/-- Nodes in the compact layout, one after another. -/
def compactAll : List Node → String
  | [] => ""
  | n :: rest => n.compact ++ compactAll rest

end

/-- The white space at a depth. -/
def indentation (depth : Nat) : String :=
  String.ofList (List.replicate (2 * depth) ' ')

mutual

/-- A node in the indented layout, as lines at a depth. -/
def Node.indented (depth : Nat) : Node → String
  | .text s => indentation depth ++ escapeWith attributeEscape? s ++ "\n"
  | .element tag attributes [] =>
    indentation depth ++ "<" ++ tag ++ printAttributes attributeEscape? attributes ++ "/>\n"
  | .element tag attributes [.text s] =>
    indentation depth ++ "<" ++ tag ++ printAttributes attributeEscape? attributes ++ ">" ++
      escapeWith attributeEscape? s ++ "</" ++ tag ++ ">\n"
  | .element tag attributes (n :: rest) =>
    indentation depth ++ "<" ++ tag ++ printAttributes attributeEscape? attributes ++ ">\n" ++
      indentedAll (depth + 1) (n :: rest) ++ indentation depth ++ "</" ++ tag ++ ">\n"

/-- Nodes in the indented layout, one after another. -/
def indentedAll (depth : Nat) : List Node → String
  | [] => ""
  | n :: rest => n.indented depth ++ indentedAll depth rest

end

/-- The first line of a document. -/
def declaration : String :=
  "<?xml version=\"1.0\" encoding=\"UTF-8\"?>\n"

/-- A document in the indented layout. -/
def document (root : Node) : String :=
  declaration ++ root.indented 0

/-! ## Trees that can be written -/

mutual

/-- A tree as it is after being written and read: line ends of texts are line feeds. -/
def Node.unifyLines : Node → Node
  | .text s => .text (String.ofList (Text.unifyLineEnds s.toList))
  | .element tag attributes content => .element tag attributes (unifyLinesAll content)

/-- Trees with line ends of texts as line feeds. -/
def unifyLinesAll : List Node → List Node
  | [] => []
  | n :: rest => n.unifyLines :: unifyLinesAll rest

end

/-- A name that needs no declaration: one without a colon, or one with the prefix that is always
bound. -/
def isBoundName (s : String) : Bool :=
  let cs := s.toList
  isPlainName cs ||
    (cs.take 4 == "xml:".toList && isPlainName (cs.drop 4))

mutual

/-- Whether all names of a tree can stand in a document. -/
def Node.hasNames : Node → Bool
  | .text _ => true
  | .element tag attributes content =>
    isBoundName tag && attributes.all (isBoundName ·.1) && haveNames content

/-- Whether all names of trees can stand in a document. -/
def haveNames : List Node → Bool
  | [] => true
  | n :: rest => n.hasNames && haveNames rest

end

end LoadPlan.Xml
