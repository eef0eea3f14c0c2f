import LoadPlan.Xml.Token

/-!
# Tokens outside of elements

What may stand before and after the root element: white space, comments, instructions and the
document type declaration with the names, literals and marks it is made of.
-/

namespace LoadPlan.Xml.Prolog

/-- How often a part of a content model may occur. -/
inductive Occurrence where
  | once
  | optional
  | any
  | some
  deriving DecidableEq, Repr

/-- A token. -/
inductive Token where
  | space
  /-- The text between quotes. -/
  | literal (value : List Char)
  /-- A name without a colon. -/
  | name (name : List Char)
  /-- A name with one colon. -/
  | qualified (name : List Char)
  /-- Characters of names that are no name. -/
  | nameToken
  /-- A name after a number sign. -/
  | keyword (name : List Char)
  /-- A name with a mark of how often it occurs. -/
  | repeated (o : Occurrence)
  | openParen
  | closeParen (o : Occurrence)
  | openBracket
  | closeBracket
  | openSection
  | closeSection
  | comma
  | bar
  | percent
  | parameter (name : List Char)
  | openDeclaration (name : List Char)
  | closeDeclaration
  | instruction (i : Instruction)
  | comment
  /-- The start of the root element; nothing of it is taken. -/
  | element
  deriving DecidableEq, Repr

/-- What a mark says about how often a part occurs. -/
def occurrence? : Char → Option Occurrence
  | '?' => some .optional
  | '*' => some .any
  | '+' => some .some
  | _ => none

/-- A literal, from what follows its opening quote. After it only some marks may stand. -/
def takeLiteral (quote : Char) : List Char → Except Halt (List Char × List Char)
  | [] => .error .unfinished
  | c :: rest =>
    if c = quote then
      match rest with
      | [] => .ok ([], [])
      | d :: _ =>
        if isSpace d || d = '>' || d = '%' || d = '[' then .ok ([], rest)
        else .error (.invalid rest)
    else if isChar c then (takeLiteral quote rest).map fun (v, rest) => (c :: v, rest)
    else .error (.invalid (c :: rest))

/-- The opening of a declaration, from its name on. -/
def takeOpening (cs : List Char) : Except Halt (Token × List Char) :=
  let isLetter (c : Char) := ('a' ≤ c && c ≤ 'z') || ('A' ≤ c && c ≤ 'Z') || c = '_'
  match cs.takeWhile isLetter, cs.dropWhile isLetter with
  | [], rest => refuse rest
  | _, [] => .error .unfinished
  | name, c :: rest =>
    if isSpace c then .ok (.openDeclaration name, c :: rest)
    else if c = '%' then
      match rest with
      | [] => .error .unfinished
      | d :: _ =>
        if isSpace d || d = '%' then .error (.invalid (c :: rest))
        else .ok (.openDeclaration name, c :: rest)
    else .error (.invalid (c :: rest))

/-- What begins with a percent sign, from what follows it. -/
def takePercent : List Char → Except Halt (Token × List Char)
  | [] => .error .unfinished
  | c :: rest =>
    if isSpace c || c = '%' then .ok (.percent, c :: rest)
    else
      match takeName (c :: rest) with
      | .error halt => .error halt
      | .ok (name, ';' :: rest) => .ok (.parameter name, rest)
      | .ok (_, rest) => refuse rest

/-- What begins with a number sign, from what follows it. -/
def takeKeyword (cs : List Char) : Except Halt (Token × List Char) :=
  match takeName cs with
  | .error halt => .error halt
  | .ok (name, []) => .ok (.keyword name, [])
  | .ok (name, c :: rest) =>
    if isSpace c || c = ')' || c = '>' || c = '%' || c = '|' then .ok (.keyword name, c :: rest)
    else .error (.invalid (c :: rest))

/-- What begins with a closing parenthesis, from what follows it. -/
def takeCloseParen : List Char → Except Halt (Token × List Char)
  | [] => .ok (.closeParen .once, [])
  | c :: rest =>
    match occurrence? c with
    | some o => .ok (.closeParen o, rest)
    | none =>
      if isSpace c || c = '>' || c = ',' || c = '|' || c = ')' then
        .ok (.closeParen .once, c :: rest)
      else .error (.invalid (c :: rest))

/-- What begins with a closing bracket, from what follows it. -/
def takeCloseBracket : List Char → Except Halt (Token × List Char)
  | ']' :: '>' :: rest => .ok (.closeSection, rest)
  | [']'] => .error .unfinished
  | rest => .ok (.closeBracket, rest)

/-- A mark that may follow a name. -/
def endsName (c : Char) : Bool :=
  isSpace c || c = '>' || c = ')' || c = ',' || c = '|' || c = '[' || c = '%'

/-- The end of a name or of characters of names: a mark of how often it occurs belongs to a name. -/
def finishName (token : Token) : List Char → Except Halt (Token × List Char)
  | [] => .ok (token, [])
  | c :: rest =>
    if endsName c then .ok (token, c :: rest)
    else
      match occurrence? c with
      | some o => if token = .nameToken then .error (.invalid (c :: rest)) else .ok (.repeated o, rest)
      | none => .error (.invalid (c :: rest))

/-- A character of a token of names. -/
def isTokenChar (c : Char) : Bool :=
  isNameChar c || c = ':'

/-- The token that characters of names make: a name, a name with one colon that is followed by a
further character, or neither. -/
def nameOf (run : List Char) : Token :=
  match run with
  | [] => .nameToken
  | c :: _ =>
    if !isNameStart c then .nameToken
    else if !run.contains ':' then .name run
    else if run.count ':' = 1 && run.getLast? != some ':' then .qualified run
    else .nameToken

/-- Whether a name breaks off after its colon. -/
def isCutName (run : List Char) : Bool :=
  (run.head?.map isNameStart).getD false && run.count ':' = 1 && run.getLast? == some ':'

/-- What begins with an angle bracket, from what follows it; `start` is the text from the bracket
on. -/
def takeMarkup (start : List Char) : List Char → Except Halt (Token × List Char)
  | [] => .error .unfinished
  | '!' :: '-' :: rest => (skipComment rest).map (.comment, ·)
  | '!' :: '[' :: rest => .ok (.openSection, rest)
  | '!' :: rest => takeOpening rest
  | '?' :: rest => (takeInstruction rest).map fun (i, rest) => (.instruction i, rest)
  | c :: rest => if isNameStart c then .ok (.element, start) else .error (.invalid (c :: rest))

/-- The next token of a text that is not empty. -/
def take (cs : List Char) : Except Halt (Token × List Char) :=
  match cs with
  | [] => .error .unfinished
  | '"' :: rest => (takeLiteral '"' rest).map fun (v, rest) => (.literal v, rest)
  | '\'' :: rest => (takeLiteral '\'' rest).map fun (v, rest) => (.literal v, rest)
  | '<' :: rest => takeMarkup cs rest
  | '%' :: rest => takePercent rest
  | '#' :: rest => takeKeyword rest
  | ',' :: rest => .ok (.comma, rest)
  | '[' :: rest => .ok (.openBracket, rest)
  | ']' :: rest => takeCloseBracket rest
  | '(' :: rest => .ok (.openParen, rest)
  | ')' :: rest => takeCloseParen rest
  | '|' :: rest => .ok (.bar, rest)
  | '>' :: rest => .ok (.closeDeclaration, rest)
  | c :: rest =>
    if isSpace c then .ok (.space, skipSpace rest)
    else if isTokenChar c then
      let run := cs.takeWhile isTokenChar
      match cs.dropWhile isTokenChar with
      | [] => if isCutName run then .error .unfinished else .ok (nameOf run, [])
      | rest => finishName (nameOf run) rest
    else .error (.invalid cs)

end LoadPlan.Xml.Prolog
