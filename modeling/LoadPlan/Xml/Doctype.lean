import LoadPlan.Xml.Prolog

/-!
# Document types

A document type declaration may declare entities, which stand for text, and attributes, which may
have default values and a type that says how their values are normalised. Content models and
notations are read and left alone, and nothing outside of the document is fetched.
-/

namespace LoadPlan.Xml

/-- A declared entity. -/
structure Entity where
  name : List Char
  /-- The text it stands for; an entity outside of the document has none. -/
  text : Option (List Char)
  isBinary : Bool := false
  deriving Repr

/-- A declared attribute of an element. -/
structure AttributeRule where
  element : List Char
  name : List Char
  /-- Whether the value is kept as it is; else its blanks are reduced. -/
  isPlain : Bool
  default : Option (List Char)
  deriving Repr

/-- What the start of a document declares. -/
structure Doctype where
  entities : List Entity := []
  attributes : List AttributeRule := []
  /-- Whether declarations outside of the document may declare more. -/
  isOpen : Bool := false
  /-- Whether the document stands alone, so that declarations outside of it do not matter. -/
  standalone : Bool := false
  /-- Whether declarations count; they do not after a reference to one outside of the document. -/
  isActive : Bool := true
  deriving Repr

namespace Doctype

/-- The entity with a name. -/
def entity? (d : Doctype) (name : List Char) : Option Entity :=
  d.entities.find? (·.name == name)

/-- Whether every entity that may be used is declared in the document. -/
def isClosed (d : Doctype) : Bool :=
  !d.isOpen || d.standalone

/-- Declares an entity; the first declaration of a name counts, and none of those that every
document has. -/
def addEntity (d : Doctype) (e : Entity) : Doctype :=
  if !d.isActive || (predefined? e.name).isSome || (d.entity? e.name).isSome then d
  else { d with entities := d.entities ++ [e] }

/-- Declares an attribute; of several declarations with a default the first counts. -/
def addAttribute (d : Doctype) (rule : AttributeRule) : Doctype :=
  let isRepeated := rule.default.isSome &&
    d.attributes.any fun r => r.element == rule.element && r.name == rule.name
  if !d.isActive || isRepeated then d else { d with attributes := d.attributes ++ [rule] }

/-- Whether the value of an attribute is kept as it is. -/
def isPlain (d : Doctype) (element name : List Char) : Bool :=
  match d.attributes.find? fun r => r.element == element && r.name == name with
  | some rule => rule.isPlain
  | none => true

/-! ## Values of attributes -/

/-- A value with one more character. Where blanks are reduced, a space is dropped at the start and
after another space. The value so far is in reverse. -/
def addChar (isPlain isBlank : Bool) (done : List Char) (c : Char) : List Char :=
  if isBlank && !isPlain && (done.isEmpty || done.head? == some ' ') then done else c :: done

/-- A value with one more character as it is written: a blank counts as a space. -/
def addText (isPlain : Bool) (c : Char) (done : List Char) : List Char :=
  if isSpace c then addChar isPlain true done ' ' else c :: done

/-- The pieces of a text, which may be the text of an entity. -/
def piecesOf : Nat → List Char → Except Halt (List Piece)
  | 0, _ => .error .unfinished
  | _, [] => .ok []
  | fuel + 1, c :: rest =>
    if c = '&' then
      match takeReference (c :: rest) rest with
      | .error halt => .error halt
      | .ok (p, rest) => (piecesOf fuel rest).map (p :: ·)
    else if c = '<' || !isChar c then .error (.invalid (c :: rest))
    else (piecesOf fuel rest).map (.char c :: ·)

/-- Adds pieces to a value, which is in reverse. Entities that are being replaced are `opened`;
`place` is where a problem with an entity is reported, and `depth` bounds how far entities nest. A
problem in the text of an entity is reported there too. -/
def addPieces (d : Doctype) (isPlain : Bool) (place : List Char) :
    Nat → List (List Char) → Bool → List Char → List Piece → Except Stop (List Char)
  | _, _, _, done, [] => .ok done
  | depth, opened, inside, done, .char '\r' :: .char '\n' :: rest =>
    addPieces d isPlain place depth opened inside (addText isPlain '\n' done) rest
  | depth, opened, inside, done, .char c :: rest =>
    addPieces d isPlain place depth opened inside (addText isPlain c done) rest
  | depth, opened, inside, done, .number c there :: rest =>
    match c with
    | none => .error ⟨.characterNumber, if inside then place else there⟩
    | some c =>
      addPieces d isPlain place depth opened inside (addChar isPlain (c == ' ') done c) rest
  | depth, opened, inside, done, .entity name there :: rest =>
    match predefined? name with
    | some c => addPieces d isPlain place depth opened inside (c :: done) rest
    | none =>
      match d.entity? name with
      | none =>
        if d.isClosed then .error ⟨.undefinedEntity, place⟩
        else addPieces d isPlain place depth opened inside done rest
      | some e =>
        let here := if inside then place else there
        if opened.contains name then .error ⟨.recursiveEntity, here⟩
        else if e.isBinary then .error ⟨.binaryEntity, here⟩
        else
          match e.text, depth with
          | none, _ => .error ⟨.externalEntityInAttribute, here⟩
          | some _, 0 => .error ⟨.recursiveEntity, here⟩
          | some text, depth + 1 =>
            match piecesOf (text.length + 1) text with
            | .error _ => .error ⟨.invalidToken, place⟩
            | .ok pieces =>
              match addPieces d isPlain place depth (name :: opened) true done pieces with
              | .error stop => .error stop
              | .ok done => addPieces d isPlain place (depth + 1) opened inside done rest
  termination_by depth _ _ _ pieces => (depth, pieces.length)

/-- The value that the pieces of an attribute make. -/
def valueOf (d : Doctype) (isPlain : Bool) (place : List Char) (pieces : List Piece) :
    Except Stop (List Char) :=
  match addPieces d isPlain place (d.entities.length + 1) [] false [] pieces with
  | .error stop => .error stop
  | .ok (' ' :: done) => .ok (if isPlain then ' ' :: done else done).reverse
  | .ok done => .ok done.reverse

/-! ## Sizes -/

/-- The names of the entities that a text refers to. -/
def references : Nat → List Char → List (List Char)
  | 0, _ => []
  | _, [] => []
  | fuel + 1, c :: rest =>
    if c = '&' then
      match takeReference (c :: rest) rest with
      | .ok (.entity name _, rest) => name :: references fuel rest
      | _ => references fuel rest
    else references fuel rest

/-- The sizes of the entities when those they refer to have the sizes of a table. -/
def sizesFrom (uses : List (List Char × Nat × List (List Char))) (table : List (List Char × Nat)) :
    List (List Char × Nat) :=
  uses.map fun (name, own, names) =>
    (name, names.foldl (fun n used => n + ((table.find? (·.1 == used)).map (·.2)).getD 0) own)

/-- How long the text of each entity is when all others in it are replaced; where entities go round
in a circle, a lower bound. -/
def sizes (d : Doctype) : List (List Char × Nat) :=
  let uses := d.entities.map fun e =>
    let text := e.text.getD []
    (e.name, text.length, references (text.length + 1) text)
  d.entities.foldl (fun table _ => sizesFrom uses table) []

/-- The longest text that entities may be replaced by. -/
def maxExpansion : Nat := 8388608

/-! ## Declarations -/

open Prolog (Token)

/-- The next token that is not white space, with the text from it on and what follows. -/
def next (cs : List Char) : Except Stop (Token × List Char × List Char) :=
  match skipSpace cs with
  | [] => .error ⟨.noElement, []⟩
  | start => (piece start (Prolog.take start)).map fun (token, rest) => (token, start, rest)

/-- Refuses a token. -/
def misplaced {α : Type} (token : Token) (start : List Char) : Except Stop α :=
  .error ⟨match token with
    | .parameter _ => .parameterEntity
    | .instruction .declaration => .misplacedDeclaration
    | _ => .syntaxError, start⟩

/-- What follows the end of a declaration. -/
def close (cs : List Char) : Except Stop (List Char) := do
  let (token, start, rest) ← next cs
  if token = .closeDeclaration then return rest else misplaced token start

/-- A character of a public identifier. -/
def isPublicChar (c : Char) : Bool :=
  c.isAlphanum || " \r\n-'()+,./:=?;!*#@$_%".toList.contains c

/-- What follows a public identifier. -/
def publicId (cs : List Char) : Except Stop (List Char) := do
  let (token, start, rest) ← next cs
  match token with
  | .literal value =>
    match value.dropWhile isPublicChar with
    | [] => return rest
    | bad => throw ⟨.publicId, start.drop (1 + value.length - bad.length)⟩
  | token => misplaced token start

/-- What follows a system identifier. -/
def systemId (cs : List Char) : Except Stop (List Char) := do
  let (token, start, rest) ← next cs
  match token with
  | .literal _ => return rest
  | token => misplaced token start

/-- What follows an external identifier that begins with a keyword. -/
def externalId (keyword : List Char) (token : Token) (start rest : List Char) :
    Except Stop (List Char) :=
  if keyword = "SYSTEM".toList then systemId rest
  else if keyword = "PUBLIC".toList then do systemId (← publicId rest)
  else misplaced token start

/-- The text of an entity: references to characters are replaced, those to entities are kept. `tail`
is the text after the value. -/
def entityText (tail : List Char) : Nat → List Char → Except Stop (List Char)
  | 0, _ => .ok []
  | _, [] => .ok []
  | fuel + 1, cs =>
    match cs with
    | [] => .ok []
    | '\r' :: '\n' :: rest => (entityText tail fuel rest).map ('\n' :: ·)
    | '\r' :: rest => (entityText tail fuel rest).map ('\n' :: ·)
    | '&' :: rest =>
      match takeReference cs rest with
      | .error .unfinished => .error ⟨.invalidToken, cs ++ tail⟩
      | .error (.invalid place) => .error ⟨.invalidToken, place ++ tail⟩
      | .ok (.number none _, _) => .error ⟨.characterNumber, cs ++ tail⟩
      | .ok (.number (some c) _, rest) => (entityText tail fuel rest).map (c :: ·)
      | .ok (.entity name _, rest) =>
        (entityText tail fuel rest).map ('&' :: name ++ ';' :: ·)
      | .ok (.char c, rest) => (entityText tail fuel rest).map (c :: ·)
    | '%' :: rest =>
      match Prolog.takePercent rest with
      | .error .unfinished => .error ⟨.invalidToken, cs ++ tail⟩
      | .error (.invalid place) => .error ⟨.invalidToken, place ++ tail⟩
      | .ok (.parameter _, _) => .error ⟨.parameterEntity, cs ++ tail⟩
      | .ok _ => .error ⟨.invalidToken, rest ++ tail⟩
    | c :: rest => (entityText tail fuel rest).map (c :: ·)

/-- Declares an entity unless it is one for declarations. -/
def declare (d : Doctype) (isParameter : Bool) (e : Entity) : Doctype :=
  if isParameter then d else d.addEntity e

/-- The rest of the declaration of an external entity, after its identifier. -/
def externalEntity (d : Doctype) (isParameter : Bool) (name rest : List Char) :
    Except Stop (Doctype × List Char) := do
  let (token, start, rest) ← next rest
  match token with
  | .closeDeclaration => return (declare d isParameter ⟨name, none, false⟩, rest)
  | .name keyword =>
    if isParameter || keyword != "NDATA".toList then misplaced token start
    else
      let (token, start, rest) ← next rest
      match token with
      | .name _ =>
        let rest ← close rest
        return (d.addEntity ⟨name, none, true⟩, rest)
      | token => misplaced token start
  | token => misplaced token start

/-- The rest of the declaration of an entity, after its name. -/
def entityBody (d : Doctype) (isParameter : Bool) (name rest : List Char) :
    Except Stop (Doctype × List Char) := do
  let (token, start, rest) ← next rest
  match token with
  | .literal value =>
    let text ←
      if d.isActive then entityText (start.drop (1 + value.length)) (value.length + 1) value
      else pure []
    let rest ← close rest
    return (declare d isParameter ⟨name, some text, false⟩, rest)
  | .name keyword =>
    let rest ← externalId keyword token start rest
    externalEntity d isParameter name rest
  | token => misplaced token start

/-- The rest of the declaration of an entity. -/
def entityDeclaration (d : Doctype) (rest : List Char) : Except Stop (Doctype × List Char) := do
  let (token, start, rest) ← next rest
  match token with
  | .name name => entityBody d false name rest
  | .percent =>
    let (token, start, rest) ← next rest
    match token with
    | .name name => entityBody d true name rest
    | token => misplaced token start
  | token => misplaced token start

/-- The rest of the declaration of a notation. -/
def notationDeclaration (rest : List Char) : Except Stop (List Char) := do
  let (token, start, rest) ← next rest
  match token with
  | .name _ =>
    let (token, start, rest) ← next rest
    match token with
    | .name keyword =>
      if keyword = "SYSTEM".toList then
        let rest ← systemId rest
        close rest
      else if keyword = "PUBLIC".toList then
        let rest ← publicId rest
        let (token, start, rest) ← next rest
        match token with
        | .closeDeclaration => return rest
        | .literal _ => close rest
        | token => misplaced token start
      else misplaced token start
    | token => misplaced token start
  | token => misplaced token start

/-- What follows a list of names in parentheses, after the parenthesis. -/
def nameList (isName : Token → Bool) : Nat → List Char → Except Stop (List Char)
  | 0, _ => .error ⟨.syntaxError, []⟩
  | fuel + 1, cs => do
    let (token, start, rest) ← next cs
    if !isName token then misplaced token start
    else
      let (token, start, rest) ← next rest
      match token with
      | .bar => nameList isName fuel rest
      | .closeParen .once => return rest
      | token => misplaced token start

/-- Whether a token may be one of the values of an attribute. -/
def isValueToken : Token → Bool
  | .name _ => true
  | .qualified _ => true
  | .nameToken => true
  | _ => false

/-- Whether a token is a name without a colon. -/
def isNameToken : Token → Bool
  | .name _ => true
  | _ => false

/-- The types of attributes that a keyword names, other than the plain one. -/
def reducedTypes : List String :=
  ["ID", "IDREF", "IDREFS", "ENTITY", "ENTITIES", "NMTOKEN", "NMTOKENS"]

/-- The type of an attribute: whether its values are plain, and what follows. -/
def attributeType (cs : List Char) : Except Stop (Bool × List Char) := do
  let (token, start, rest) ← next cs
  match token with
  | .name keyword =>
    if keyword = "CDATA".toList then return (true, rest)
    else if reducedTypes.contains (String.ofList keyword) then return (false, rest)
    else if keyword = "NOTATION".toList then
      let (token, start, rest) ← next rest
      match token with
      | .openParen => return (false, ← nameList isNameToken (rest.length + 1) rest)
      | token => misplaced token start
    else misplaced token start
  | .openParen => return (false, ← nameList isValueToken (rest.length + 1) rest)
  | token => misplaced token start

/-- The default of an attribute, from its literal on. -/
def defaultValue (d : Doctype) (isPlain : Bool) (value start : List Char) :
    Except Stop (Option (List Char)) := do
  if !d.isActive then return none
  let tail := start.drop (1 + value.length)
  match piecesOf (value.length + 1) value with
  | .error .unfinished => throw ⟨.invalidToken, start.drop 1⟩
  | .error (.invalid place) => throw ⟨.invalidToken, place ++ tail⟩
  | .ok pieces => return some (← valueOf d isPlain start pieces)

/-- The default of an attribute, and what follows. -/
def attributeDefault (d : Doctype) (isPlain : Bool) (cs : List Char) :
    Except Stop (Option (List Char) × List Char) := do
  let (token, start, rest) ← next cs
  match token with
  | .literal value => return (← defaultValue d isPlain value start, rest)
  | .keyword keyword =>
    if keyword = "IMPLIED".toList || keyword = "REQUIRED".toList then return (none, rest)
    else if keyword = "FIXED".toList then
      let (token, start, rest) ← next rest
      match token with
      | .literal value => return (← defaultValue d isPlain value start, rest)
      | token => misplaced token start
    else misplaced token start
  | token => misplaced token start

/-- The rest of a declaration of attributes, after the name of the element. -/
def attributeRules (element : List Char) : Nat → Doctype → List Char →
    Except Stop (Doctype × List Char)
  | 0, _, _ => .error ⟨.syntaxError, []⟩
  | fuel + 1, d, cs => do
    let (token, start, rest) ← next cs
    let named (name : List Char) : Except Stop (Doctype × List Char) := do
      let (isPlain, rest) ← attributeType rest
      let (default, rest) ← attributeDefault d isPlain rest
      attributeRules element fuel (d.addAttribute ⟨element, name, isPlain, default⟩) rest
    match token with
    | .closeDeclaration => return (d, rest)
    | .name name => named name
    | .qualified name => named name
    | token => misplaced token start

/-- The rest of a declaration of attributes. -/
def attributeDeclaration (d : Doctype) (rest : List Char) : Except Stop (Doctype × List Char) := do
  let (token, start, rest) ← next rest
  match token with
  | .name element => attributeRules element (rest.length + 1) d rest
  | .qualified element => attributeRules element (rest.length + 1) d rest
  | token => misplaced token start

/-- The rest of a content model with text, after a name or the keyword for text; `named` says
whether a name came before. -/
def mixedModel : Nat → Bool → List Char → Except Stop (List Char)
  | 0, _, _ => .error ⟨.syntaxError, []⟩
  | fuel + 1, named, cs => do
    let (token, start, rest) ← next cs
    match token with
    | .closeParen .any => close rest
    | .closeParen .once => if named then misplaced token start else close rest
    | .bar =>
      let (token, start, rest) ← next rest
      match token with
      | .name _ => mixedModel fuel true rest
      | .qualified _ => mixedModel fuel true rest
      | token => misplaced token start
    | token => misplaced token start

/-- The rest of a content model of elements. Each open group has the mark that separates its parts,
once there is one; `expectsPart` says whether a part must come next. -/
def elementModel : Nat → List (Option Token) → Bool → List Char → Except Stop (List Char)
  | 0, _, _, _ => .error ⟨.syntaxError, []⟩
  | fuel + 1, groups, expectsPart, cs => do
    let (token, start, rest) ← next cs
    match expectsPart, token, groups with
    | true, .openParen, _ => elementModel fuel (none :: groups) true rest
    | true, .name _, _ => elementModel fuel groups false rest
    | true, .qualified _, _ => elementModel fuel groups false rest
    | true, .repeated _, _ => elementModel fuel groups false rest
    | false, .closeParen _, [_] => close rest
    | false, .closeParen _, _ :: outer => elementModel fuel outer false rest
    | false, .comma, group :: outer =>
      if group = some .bar then misplaced token start
      else elementModel fuel (some .comma :: outer) true rest
    | false, .bar, group :: outer =>
      if group = some .comma then misplaced token start
      else elementModel fuel (some .bar :: outer) true rest
    | _, token, _ => misplaced token start

/-- The rest of the declaration of an element, after its name. -/
def elementBody (cs : List Char) : Except Stop (List Char) := do
  let (token, start, rest) ← next cs
  match token with
  | .name keyword =>
    if keyword = "EMPTY".toList || keyword = "ANY".toList then close rest
    else misplaced token start
  | .openParen =>
    let (token, start, after) ← next rest
    match token with
    | .keyword keyword =>
      if keyword = "PCDATA".toList then mixedModel (after.length + 1) false after
      else misplaced token start
    | _ => elementModel (rest.length + 1) [none] true rest
  | token => misplaced token start

/-- The rest of the declaration of an element. -/
def elementDeclaration (rest : List Char) : Except Stop (List Char) := do
  let (token, start, rest) ← next rest
  match token with
  | .name _ => elementBody rest
  | .qualified _ => elementBody rest
  | token => misplaced token start

/-- The declarations in brackets, after the opening one, and what follows the closing one. -/
def declarations : Nat → Doctype → List Char → Except Stop (Doctype × List Char)
  | 0, _, _ => .error ⟨.syntaxError, []⟩
  | fuel + 1, d, cs => do
    let (token, start, rest) ← next cs
    match token with
    | .closeBracket => return (d, rest)
    | .comment => declarations fuel d rest
    | .instruction .other => declarations fuel d rest
    | .parameter _ =>
      declarations fuel { d with isOpen := true, isActive := d.standalone } rest
    | .openDeclaration name =>
      if name = "ENTITY".toList then
        let (d, rest) ← entityDeclaration d rest
        declarations fuel d rest
      else if name = "ATTLIST".toList then
        let (d, rest) ← attributeDeclaration d rest
        declarations fuel d rest
      else if name = "ELEMENT".toList then
        let rest ← elementDeclaration rest
        declarations fuel d rest
      else if name = "NOTATION".toList then
        let rest ← notationDeclaration rest
        declarations fuel d rest
      else misplaced token start
    | token => misplaced token start

/-- The rest of a document type declaration, after its identifier. -/
def body (d : Doctype) (token : Token) (start rest : List Char) :
    Except Stop (Doctype × List Char) := do
  match token with
  | .closeDeclaration => return (d, rest)
  | .openBracket =>
    let (d, rest) ← declarations (rest.length + 1) d rest
    let rest ← close rest
    return (d, rest)
  | token => misplaced token start

/-- A document type declaration, after its opening. -/
def read (d : Doctype) (rest : List Char) : Except Stop (Doctype × List Char) := do
  let (token, start, rest) ← next rest
  let isName := match token with
    | .name _ => true
    | .qualified _ => true
    | _ => false
  if !isName then misplaced token start
  else
    let (token, start, rest) ← next rest
    match token with
    | .name keyword =>
      let rest ← externalId keyword token start rest
      let (token, start, rest) ← next rest
      body { d with isOpen := true } token start rest
    | token => body d token start rest

end Doctype

end LoadPlan.Xml
