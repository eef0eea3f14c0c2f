import LoadPlan.Xml.Codec
import LoadPlan.Xml.Declaration
import LoadPlan.Xml.Doctype
import LoadPlan.Xml.Node

/-!
# Reading XML

A document is read into the tree of its root element. Comments and instructions disappear, line ends
become line feeds, references are replaced, and names with a prefix are replaced by the namespace in
braces and the name. A document that is refused is refused at a place: the reader carries what is
left of the text, and the place is where that begins.
-/

namespace LoadPlan.Xml

/-! ## Namespaces -/

/-- The prefixes in force with their namespaces; the empty prefix is the one of names without. -/
abbrev Bindings := List (List Char × List Char)

/-- The namespace of the prefix that is always bound. -/
def xmlNamespace : List Char :=
  "http://www.w3.org/XML/1998/namespace".toList

/-- The namespace of the names that bind prefixes. -/
def bindingNamespace : List Char :=
  "http://www.w3.org/2000/xmlns/".toList

/-- The prefix of a name, if it has one, and the name itself. -/
def splitName (name : List Char) : Option (List Char) × List Char :=
  match name.dropWhile (· != ':') with
  | _ :: rest => (some (name.takeWhile (· != ':')), rest)
  | [] => (none, name)

/-- The prefix that an attribute binds, if it binds one. -/
def boundPrefix? (name : List Char) : Option (List Char) :=
  if name = "xmlns".toList then some []
  else
    match splitName name with
    | (some p, rest) => if p = "xmlns".toList then some rest else none
    | (none, _) => none

/-- The bindings with one more, if it is allowed. -/
def bind (bindings : Bindings) (key uri : List Char) : Except Problem Bindings :=
  if uri.isEmpty && !key.isEmpty then .error .undeclaredPrefix
  else if key = "xmlns".toList then .error .reservedXmlns
  else if uri.contains '\x7d' then .error .syntaxError
  else if key = "xml".toList then
    if uri = xmlNamespace then .ok ((key, uri) :: bindings) else .error .reservedXml
  else if uri = xmlNamespace || uri = bindingNamespace then .error .reservedNamespace
  else .ok ((key, uri) :: bindings)

/-- A name in a namespace. -/
def inNamespace (uri name : List Char) : List Char :=
  if uri.isEmpty then name else '\x7b' :: uri ++ '\x7d' :: name

/-- The namespace of a prefix. -/
def namespace? (bindings : Bindings) (key : List Char) : Option (List Char) :=
  if key = "xml".toList then some xmlNamespace
  else (bindings.find? (·.1 == key)).map (·.2)

/-- The full name of an element. -/
def elementName (bindings : Bindings) (name : List Char) : Except Problem (List Char) :=
  match splitName name with
  | (some key, rest) =>
    match namespace? bindings key with
    | some uri => .ok (inNamespace uri rest)
    | none => .error .unboundPrefix
  | (none, name) => .ok (inNamespace ((namespace? bindings []).getD []) name)

/-- The full name of an attribute; one without a prefix is in no namespace. -/
def attributeName (bindings : Bindings) (name : List Char) : Except Problem (List Char) :=
  match splitName name with
  | (some key, rest) =>
    match namespace? bindings key with
    | some uri => .ok (inNamespace uri rest)
    | none => .error .unboundPrefix
  | (none, name) => .ok name

/-! ## Start tags -/

/-- Attributes with their values, in order. -/
abbrev Values := List (List Char × List Char)

/-- The values of the attributes of a tag that starts at `place`. -/
def attributeValues (d : Doctype) (element place : List Char) :
    List (List Char) → List RawAttribute → Except Stop Values
  | _, [] => .ok []
  | before, a :: rest =>
    if before.contains a.name then .error ⟨.duplicateAttribute, a.place⟩
    else
      match d.valueOf (d.isPlain element a.name) place a.value with
      | .error stop => .error stop
      | .ok value =>
        match boundPrefix? a.name with
        | some key =>
          match bind [] key value with
          | .error problem => .error ⟨problem, place⟩
          | .ok _ =>
            (attributeValues d element place (a.name :: before) rest).map ((a.name, value) :: ·)
        | none =>
          (attributeValues d element place (a.name :: before) rest).map ((a.name, value) :: ·)

/-- The default values of the attributes that a tag does not have. -/
def defaultValues (d : Doctype) (element : List Char) (given : Values) : Values :=
  d.attributes.filterMap fun rule =>
    if rule.element == element && !given.any (·.1 == rule.name) then
      rule.default.map fun value => (rule.name, value)
    else none

/-- The bindings that attributes add. -/
def bindAll (bindings : Bindings) : Values → Except Problem Bindings
  | [] => .ok bindings
  | (name, value) :: rest =>
    match boundPrefix? name with
    | none => bindAll bindings rest
    | some key =>
      match bind bindings key value with
      | .error problem => .error problem
      | .ok bindings => bindAll bindings rest

/-- The attributes that bind no prefix, under their full names, which must differ. -/
def nameAll (bindings : Bindings) : List (List Char) → Values → Except Problem Values
  | _, [] => .ok []
  | before, (name, value) :: rest =>
    if (boundPrefix? name).isSome then nameAll bindings before rest
    else
      match attributeName bindings name with
      | .error problem => .error problem
      | .ok full =>
        if before.contains full then .error .duplicateAttribute
        else (nameAll bindings (full :: before) rest).map ((full, value) :: ·)

/-- The surroundings of a piece of content. -/
structure Scope where
  doctype : Doctype
  sizes : List (List Char × Nat)
  bindings : Bindings := []
  /-- The entities that are being replaced, innermost first. -/
  opened : List (List Char) := []

/-- The name, the attributes and the scope of the element with a tag that starts at `place`. -/
def openTag (scope : Scope) (place : List Char) (tag : RawTag) :
    Except Stop (String × List (String × String) × Scope) := do
  let given ← attributeValues scope.doctype tag.name place [] tag.attributes
  let values := given ++ defaultValues scope.doctype tag.name given
  let at' {α : Type} (x : Except Problem α) : Except Stop α := x.mapError (⟨·, place⟩)
  let bindings ← at' (bindAll scope.bindings values)
  let attributes ← at' (nameAll bindings [] values)
  let name ← at' (elementName bindings tag.name)
  return (String.ofList name,
    attributes.map fun a => (String.ofList a.1, String.ofList a.2), { scope with bindings })

/-! ## Content -/

/-- Nodes with a text in front, which joins a text at their start. -/
def prepend (s : List Char) (nodes : List Node) : List Node :=
  match s, nodes with
  | [], nodes => nodes
  | s, .text t :: rest => .text (String.ofList s ++ t) :: rest
  | s, nodes => .text (String.ofList s) :: nodes

/-- Nodes one after another; texts that meet are joined. -/
def join (before after : List Node) : List Node :=
  match before.getLast?, after with
  | some (.text s), .text t :: rest => before.dropLast ++ .text (s ++ t) :: rest
  | _, after => before ++ after

/-- A character that ends a run of text. -/
def endsText (c : Char) : Bool :=
  c = '<' || c = '&' || !isChar c

/-- The text up to the next markup, with line feeds for line ends, and what follows. A carriage
return at the very end is left. -/
def takeText : List Char → List Char × List Char
  | [] => ([], [])
  | ['\r'] => ([], ['\r'])
  | '\r' :: '\n' :: rest => let (s, rest) := takeText rest; ('\n' :: s, rest)
  | '\r' :: rest => let (s, rest) := takeText rest; ('\n' :: s, rest)
  | ']' :: ']' :: '>' :: rest => ([], ']' :: ']' :: '>' :: rest)
  | c :: rest => if endsText c then ([], c :: rest) else let (s, rest) := takeText rest; (c :: s, rest)

/-- The text of a character data section and what follows it. -/
def takeSection : List Char → Except Stop (List Char × List Char)
  | ']' :: ']' :: '>' :: rest => .ok ([], rest)
  | [] => .error ⟨.unclosedCdata, []⟩
  | [']'] => .error ⟨.unclosedCdata, [']']⟩
  | [']', ']'] => .error ⟨.unclosedCdata, [']', ']']⟩
  | ['\r'] => .error ⟨.unclosedCdata, ['\r']⟩
  | '\r' :: '\n' :: rest => (takeSection rest).map fun (s, rest) => ('\n' :: s, rest)
  | '\r' :: rest => (takeSection rest).map fun (s, rest) => ('\n' :: s, rest)
  | c :: rest =>
    if isChar c then (takeSection rest).map fun (s, rest) => (c :: s, rest)
    else .error ⟨.invalidToken, c :: rest⟩

/-- What follows the opening of a character data section, from its keyword on. -/
def openSection (cs : List Char) : Except Halt (List Char) :=
  let keyword := "CDATA[".toList
  if keyword.isPrefixOf cs then .ok (cs.drop 6)
  else if cs.length < 6 then .error .unfinished
  else
    let matching := (cs.zip keyword).takeWhile fun (a, b) => a == b
    .error (.invalid (cs.drop matching.length))

/-- What an entity in content stands for. -/
inductive Replacement where
  | nothing
  | char (c : Char)
  | text (s : List Char)

/-- What a reference to an entity in content stands for. -/
def replacement (scope : Scope) (name : List Char) : Except Problem Replacement :=
  match predefined? name with
  | some c => .ok (.char c)
  | none =>
    match scope.doctype.entity? name with
    | none =>
      .error (if scope.doctype.isClosed then .undefinedEntity
        else .undefinedNamed (String.ofList name))
    | some e =>
      if scope.opened.contains name then .error .recursiveEntity
      else if e.isBinary then .error .binaryEntity
      else
        match e.text with
        | none => .error (.undefinedNamed (String.ofList name))
        | some text =>
          let size := ((scope.sizes.find? (·.1 == name)).map (·.2)).getD 0
          if Doctype.maxExpansion < size then .error .amplification else .ok (.text text)

mutual

/-- Content up to an end tag or the end of the text, and what follows. The steps are at most
`fuel`. -/
def content (scope : Scope) : Nat → List Char → Except Stop (List Node × List Char)
  | 0, cs => .error ⟨.amplification, cs⟩
  | fuel + 1, cs =>
    match cs with
    | [] => .ok ([], [])
    | '<' :: '/' :: _ => .ok ([], cs)
    | '<' :: '!' :: '-' :: rest =>
      match piece cs (skipComment rest) with
      | .error stop => .error stop
      | .ok rest => content scope fuel rest
    | '<' :: '!' :: '[' :: rest =>
      match piece cs (openSection rest) with
      | .error stop => .error stop
      | .ok rest =>
        match takeSection rest with
        | .error stop => .error stop
        | .ok (s, rest) => (content scope fuel rest).map fun (ns, rest) => (prepend s ns, rest)
    | '<' :: '!' :: rest => piece cs (refuse rest)
    | '<' :: '?' :: rest =>
      match piece cs (takeInstruction rest) with
      | .error stop => .error stop
      | .ok (.declaration, _) => .error ⟨.misplacedDeclaration, cs⟩
      | .ok (.other, rest) => content scope fuel rest
    | '<' :: rest =>
      match element scope fuel cs rest with
      | .error stop => .error stop
      | .ok (n, rest) => (content scope fuel rest).map fun (ns, rest) => (n :: ns, rest)
    | '&' :: rest =>
      match piece cs (takeReference cs rest) with
      | .error stop => .error stop
      | .ok (.number none _, _) => .error ⟨.characterNumber, cs⟩
      | .ok (.number (some c) _, rest) =>
        (content scope fuel rest).map fun (ns, rest) => (prepend [c] ns, rest)
      | .ok (.char c, rest) =>
        (content scope fuel rest).map fun (ns, rest) => (prepend [c] ns, rest)
      | .ok (.entity name _, rest) =>
        match replacement scope name with
        | .error problem => .error ⟨problem, cs⟩
        | .ok .nothing => content scope fuel rest
        | .ok (.char c) =>
          (content scope fuel rest).map fun (ns, rest) => (prepend [c] ns, rest)
        | .ok (.text text) =>
          match entity scope fuel name text with
          | .error problem => .error ⟨problem, cs⟩
          | .ok inner => (content scope fuel rest).map fun (ns, rest) => (join inner ns, rest)
    | _ =>
      match takeText cs with
      | ([], ']' :: ']' :: rest) => .error ⟨.invalidToken, rest⟩
      | ([], ['\r']) => if scope.opened.isEmpty then .ok ([], ['\r']) else .ok ([.text "\n"], [])
      | ([], rest) => .error ⟨.invalidToken, rest⟩
      | (s, rest) => (content scope fuel rest).map fun (ns, rest) => (prepend s ns, rest)

/-- The element whose tag begins at `place`, from its name on, and what follows. -/
def element (scope : Scope) : Nat → List Char → List Char → Except Stop (Node × List Char)
  | 0, place, _ => .error ⟨.amplification, place⟩
  | fuel + 1, place, cs =>
    match piece place (takeTag cs) with
    | .error stop => .error stop
    | .ok (tag, rest) =>
      match openTag scope place tag with
      | .error stop => .error stop
      | .ok (name, attributes, inner) =>
        if tag.isEmpty then .ok (.element name attributes [], rest)
        else
          match content inner fuel rest with
          | .error stop => .error stop
          | .ok (nodes, '<' :: '/' :: rest) =>
            match piece ('<' :: '/' :: rest) (takeEndTag rest) with
            | .error stop => .error stop
            | .ok (ending, after) =>
              if ending = tag.name then .ok (.element name attributes nodes, after)
              else .error ⟨.mismatchedTag, rest⟩
          | .ok (_, rest) =>
            .error ⟨if scope.opened.isEmpty then .noElement else .asynchronousEntity, rest⟩

/-- The content that the text of an entity stands for. -/
def entity (scope : Scope) : Nat → List Char → List Char → Except Problem (List Node)
  | 0, _, _ => .error .amplification
  | fuel + 1, name, text =>
    match content { scope with opened := name :: scope.opened } fuel text with
    | .error stop => .error stop.problem
    | .ok (nodes, []) => .ok nodes
    | .ok (_, _ :: _) => .error .asynchronousEntity

end

/-! ## Documents -/

/-- What follows the root element: white space, comments and instructions only. -/
def epilog : Nat → List Char → Except Stop Unit
  | 0, _ => .ok ()
  | fuel + 1, cs =>
    match skipSpace cs with
    | [] => .ok ()
    | start =>
      match piece start (Prolog.take start) with
      | .error stop => .error stop
      | .ok (.comment, rest) => epilog fuel rest
      | .ok (.instruction .other, rest) => epilog fuel rest
      | .ok _ => .error ⟨.junkAfterElement, start⟩

/-- The root element, whose tag begins at `place`, and what follows it. -/
def root (d : Doctype) (place : List Char) : Except Stop Node :=
  let scope : Scope := { doctype := d, sizes := d.sizes }
  match element scope (4 * place.length + 4) place (place.drop 1) with
  | .error stop => .error stop
  | .ok (n, rest) => (epilog (rest.length + 1) rest).map fun _ => n

/-- A document after its declaration; `named` says whether the type was declared before. -/
def prolog (d : Doctype) : Nat → Bool → List Char → Except Stop Node
  | 0, _, cs => .error ⟨.syntaxError, cs⟩
  | fuel + 1, named, cs =>
    match Doctype.next cs with
    | .error stop => .error stop
    | .ok (token, start, rest) =>
      match token with
      | .comment => prolog d fuel named rest
      | .instruction .other => prolog d fuel named rest
      | .element => root d start
      | .openDeclaration name =>
        if name = "DOCTYPE".toList && !named then
          match Doctype.read d rest with
          | .error stop => .error stop
          | .ok (d, rest) => prolog d fuel true rest
        else Doctype.misplaced token start
      | token => Doctype.misplaced token start

/-- A document without its declaration. -/
def documentBody (standalone : Bool) (cs : List Char) : Except Stop Node :=
  prolog { standalone } (cs.length + 1) false cs

/-- The line and column of what is left of a text: lines from 1, columns from 0. -/
def locate (total rest : List Char) : Nat × Nat :=
  go 1 0 (total.take (total.length - rest.length))
where
  /-- The line and column after characters. -/
  go (line column : Nat) : List Char → Nat × Nat
    | [] => (line, column)
    | '\r' :: '\n' :: more => go (line + 1) 0 more
    | '\r' :: more => go (line + 1) 0 more
    | '\n' :: more => go (line + 1) 0 more
    | _ :: more => go line (column + 1) more

/-- The problem of a text that ends inside of a character, where it would be one of the end. -/
def atCut (isCut : Bool) (problem : Problem) : Problem :=
  if isCut && (problem = .unclosedToken || problem = .noElement || problem = .unclosedCdata) then
    .partialCharacter
  else problem

/-- The outcome of reading a text, with the place of what is wrong. -/
def placedIn (text : Decoded) (result : Except Stop Node) : Except Error Node :=
  result.mapError fun stop =>
    let (line, column) := locate text.chars stop.rest
    .malformed (atCut text.isCut stop.problem) line column

/-- A text without a byte order mark at its start. -/
def skipMark : List Char → List Char
  | c :: rest => if c.toNat = 0xfeff then rest else c :: rest
  | [] => []

/-- The number of bytes of characters in UTF-8. -/
def byteCount (cs : List Char) : Nat :=
  (String.ofList cs).utf8ByteSize

/-- Reads on after a declaration, in the encoding that it names. -/
def afterDeclaration (input : List UInt8) (encoding : Encoding) (text : Decoded) (d : Declaration)
    (tail rest : List Char) : Except Error Node :=
  let go := placedIn text (documentBody d.standalone rest)
  match d.encoding with
  | none => go
  | some (name, place) =>
    let wrong := placedIn text (.error ⟨.wrongEncoding, place ++ tail⟩)
    match Encoding.ofName name with
    | .unknown => .error .noSuchEncoding
    | .multibyte => .error .multibyteEncoding
    | .unsuited => placedIn text (.error ⟨.unknownEncoding, place ++ tail⟩)
    | .utf16 => if encoding.agrees .utf8 then wrong else go
    | .known other =>
      if !encoding.agrees other then wrong
      else if other = encoding then go
      else
        let text' := other.decode input
        let before := text.chars.take (text.chars.length - rest.length)
        placedIn text' (documentBody d.standalone (text'.chars.drop (byteCount before)))

/-- Whether a text begins with a declaration. -/
def startsDeclaration : List Char → Bool
  | '<' :: '?' :: 'x' :: 'm' :: 'l' :: c :: _ => isSpace c || c = '?'
  | _ => false

/-- The tree of the root element of a document. -/
def read (input : List UInt8) : Except Error Node :=
  if Encoding.isHalfMark input then .error (.malformed .unclosedToken 1 0)
  else
    let encoding := Encoding.detect input
    let text := encoding.decode input
    let start := skipMark text.chars
    if !startsDeclaration start then placedIn text (documentBody false start)
    else
      match piece start (takeInstruction (start.drop 2)) with
      | .error stop => placedIn text (.error stop)
      | .ok (_, rest) =>
        let tail := '?' :: '>' :: rest
        let said := (start.drop 5).take (start.length - 5 - tail.length)
        match Declaration.ofChars said with
        | .error place => placedIn text (.error ⟨.malformedDeclaration, place ++ tail⟩)
        | .ok d => afterDeclaration input encoding text d tail rest

end LoadPlan.Xml
