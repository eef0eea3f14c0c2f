import LoadPlan.Xml.Encoding
import LoadPlan.Xml.Token

/-!
# The declaration of a document

A document may begin with a declaration of its version, its encoding and whether it stands alone, in
this order.
-/

namespace LoadPlan.Xml

/-- What a declaration says. -/
structure Declaration where
  /-- The name of the encoding, and the text of the declaration from it on. -/
  encoding : Option (List Char × List Char) := none
  standalone : Bool := false

namespace Declaration

/-- One entry of a declaration: its name and value, each with the text from there on. -/
structure Entry where
  name : List Char
  namePlace : List Char
  value : List Char
  valuePlace : List Char

/-- A character of a value. -/
def isValueChar (c : Char) : Bool :=
  c.isAlphanum || c = '.' || c = '-' || c = '_'

/-- A value up to its closing quote. -/
def takeValue (quote : Char) (name namePlace cs : List Char) :
    Except (List Char) (Option Entry × List Char) :=
  let value := cs.takeWhile isValueChar
  match cs.dropWhile isValueChar with
  | c :: rest =>
    if c = quote then .ok (some ⟨name, namePlace, value, cs⟩, rest) else .error (c :: rest)
  | [] => .error []

/-- A value in quotes of either kind. -/
def takeQuoted (name namePlace cs : List Char) : Except (List Char) (Option Entry × List Char) :=
  match skipSpace cs with
  | '"' :: rest => takeValue '"' name namePlace rest
  | '\'' :: rest => takeValue '\'' name namePlace rest
  | rest => .error rest

/-- A character of the name of an entry. -/
def isEntryNameChar (c : Char) : Bool :=
  c != '=' && !isSpace c && c.toNat < 128

/-- An entry from its name on. -/
def takeNamed (start : List Char) : Except (List Char) (Option Entry × List Char) :=
  match start.takeWhile isEntryNameChar, skipSpace (start.dropWhile isEntryNameChar) with
  | [], _ => .error start
  | name, '=' :: rest => takeQuoted name start rest
  | _, rest => .error rest

/-- The next entry, if there is one before the end; else the place that is wrong. -/
def takeEntry (cs : List Char) : Except (List Char) (Option Entry × List Char) :=
  match cs with
  | [] => .ok (none, [])
  | c :: _ =>
    if !isSpace c then .error cs
    else
      match skipSpace cs with
      | [] => .ok (none, [])
      | start => takeNamed start

/-- Whether a text starts with a letter of ASCII. -/
def startsWithLetter : List Char → Bool
  | c :: _ => c.isAlpha
  | [] => false

/-- The last entry, and the end. -/
def takeStandalone (d : Declaration) (e : Entry) (rest : List Char) :
    Except (List Char) Declaration :=
  if e.name != "standalone".toList then .error e.namePlace
  else if e.value != "yes".toList && e.value != "no".toList then .error e.valuePlace
  else
    match skipSpace rest with
    | [] => .ok { d with standalone := e.value == "yes".toList }
    | place => .error place

/-- The entries after the version. -/
def takeFurther (e : Entry) (rest : List Char) : Except (List Char) Declaration :=
  if e.name = "encoding".toList then
    if !startsWithLetter e.value then .error e.valuePlace
    else
      let d : Declaration := { encoding := some (e.value, e.valuePlace) }
      match takeEntry rest with
      | .error place => .error place
      | .ok (none, _) => .ok d
      | .ok (some e, rest) => takeStandalone d e rest
  else takeStandalone {} e rest

/-- What the text between the target and the end of a declaration says; else the place that is
wrong. -/
def ofChars (cs : List Char) : Except (List Char) Declaration :=
  match takeEntry cs with
  | .error place => .error place
  | .ok (none, _) => .error cs
  | .ok (some e, rest) =>
    if e.name != "version".toList then .error e.namePlace
    else
      match takeEntry rest with
      | .error place => .error place
      | .ok (none, _) => .ok {}
      | .ok (some e, rest) => takeFurther e rest

end Declaration

end LoadPlan.Xml
