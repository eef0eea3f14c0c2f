import LoadPlan.Yaml.Timestamp
import LoadPlan.Yaml.Token

/-!
# Nodes of YAML

What tokens make: scalars, sequences and mappings, each with the tag that says what it stands for.
An anchor names a node, and an alias is a further copy of the node that was named.
-/

namespace LoadPlan.Yaml

/-- A node. -/
inductive Node where
  | scalar (tag : Tag) (text : String)
  | sequence (tag : Tag) (items : List Node)
  | mapping (tag : Tag) (entries : List (Node × Node))
  deriving Inhabited

/-- The tag of a node. -/
def Node.tag : Node → Tag
  | .scalar tag _ => tag
  | .sequence tag _ => tag
  | .mapping tag _ => tag

/-- The node that stands where nothing is written. -/
def Node.empty : Node :=
  .scalar (Tag.ofPlain []) ""

/-- The tokens that are left, and the names that have been given. -/
structure Reading where
  tokens : List Token
  handles : List (String × String)
  anchors : List (String × Node) := []

/-- A computation that reads tokens. -/
abbrev Reader := StateT Reading (Except Problem)

namespace Reader

/-- The next token, if there is one. -/
def peek? : Reader (Option Token) := do
  return (← get).tokens.head?

/-- Whether the next token satisfies a condition; false at the end. -/
def isNext (f : Token → Bool) : Reader Bool := do
  return (← peek?).any f

/-- Takes the next token. -/
def skip : Reader Unit :=
  modify fun s => { s with tokens := s.tokens.drop 1 }

/-- Takes a token if it is the next one, and says whether it was. -/
def take (t : Token) : Reader Bool := do
  if ← isNext (· == t) then
    skip
    return true
  return false

/-- Takes a token that must be the next one. -/
def expect (t : Token) : Reader Unit := do
  if !(← take t) then throw .malformed

/-- Whether the document ends here. -/
def atEnd : Reader Bool := do
  return (← peek?).isNone

end Reader

open Reader

/-- What may be written before a node: a name for it and its tag. -/
structure Properties where
  anchor : Option String := none
  tag : Option WrittenTag := none

/-- The tag that a handle and a suffix write. -/
def resolveTag (handle : Option String) (suffix : String) : Reader WrittenTag := do
  match handle with
  | none => return .ofText suffix
  | some handle =>
    match (← get).handles.find? (·.1 == handle) with
    | some (_, start) => return .ofText (start ++ suffix)
    | none => throw .malformed

/-- The anchor at the next token, if one stands there. -/
def anchorHere : Reader (Option String) := do
  match ← peek? with
  | some (.anchor name) =>
    skip
    return some name
  | _ => return none

/-- The tag at the next token, if one stands there. -/
def tagHere : Reader (Option (Option String × String)) := do
  match ← peek? with
  | some (.tag handle suffix) =>
    skip
    return some (handle, suffix)
  | _ => return none

/-- What is written before a node, in either order. -/
def properties : Reader Properties := do
  let before ← anchorHere
  let written ← tagHere
  let anchor ← if before.isNone && written.isSome then anchorHere else pure before
  match written with
  | none => return { anchor }
  | some (handle, suffix) => return { anchor, tag := some (← resolveTag handle suffix) }

/-- Refuses a name that has been given before. -/
def checkNew (anchor : Option String) : Reader Unit := do
  match anchor with
  | none => pure ()
  | some name => if (← get).anchors.any (·.1 == name) then throw .malformed

/-- Gives a node its name. -/
def named (anchor : Option String) (n : Node) : Reader Node := do
  match anchor with
  | none => return n
  | some name =>
    if (← get).anchors.any (·.1 == name) then throw .malformed
    modify fun s => { s with anchors := (name, n) :: s.anchors }
    return n

/-- The node that an alias stands for. -/
def aliased (name : String) : Reader Node := do
  match (← get).anchors.find? (·.1 == name) with
  | some (_, n) => return n
  | none => throw .malformed

/-- A token that ends a collection or an entry of it, where a node may be missing. -/
def endsEntry (t : Token) : Bool :=
  t == .key || t == .value || t == .blockEnd

/-- A token of a flow sequence behind which a node may be missing. -/
def endsFlowItem (t : Token) : Bool :=
  t == .flowEntry || t == .flowSequenceEnd

/-- A token of a flow mapping behind which a node may be missing. -/
def endsFlowEntry (t : Token) : Bool :=
  t == .flowEntry || t == .flowMappingEnd

mutual

/-- A node. Block collections may start only in block structure, and a sequence without an
indentation of its own only as a part of a block mapping. -/
def node : Nat → Bool → Bool → Reader Node
  | 0, _, _ => throw .malformed
  | fuel + 1, inBlock, inMapping => do
    match ← peek? with
    | some (.reference name) =>
      skip
      aliased name
    | _ =>
      let p ← properties
      checkNew p.anchor
      named p.anchor (← content fuel inBlock inMapping p)

/-- What follows the properties of a node. -/
def content : Nat → Bool → Bool → Properties → Reader Node
  | 0, _, _, _ => throw .malformed
  | fuel + 1, inBlock, inMapping, p => do
    match ← peek? with
    | some (.scalar text plain) =>
      skip
      return .scalar (Tag.ofScalar p.tag text plain) text
    | some .flowSequenceStart =>
      skip
      return .sequence (Tag.ofCollection p.tag .sequence) (← flowItems fuel true)
    | some .flowMappingStart =>
      skip
      return .mapping (Tag.ofCollection p.tag .mapping) (← flowEntries fuel true)
    | next =>
      if inMapping && next == some .blockEntry then
        return .sequence (Tag.ofCollection p.tag .sequence) (← looseItems fuel)
      else if inBlock && next == some .blockSequenceStart then
        skip
        return .sequence (Tag.ofCollection p.tag .sequence) (← blockItems fuel)
      else if inBlock && next == some .blockMappingStart then
        skip
        return .mapping (Tag.ofCollection p.tag .mapping) (← blockEntries fuel)
      else if p.anchor.isSome || p.tag.isSome then
        return .scalar (Tag.ofScalar p.tag "" p.tag.isNone) ""
      else throw .malformed

/-- A node, or the empty one before some tokens. -/
def optionalNode : Nat → (Token → Bool) → Bool → Bool → Reader Node
  | 0, _, _, _ => throw .malformed
  | fuel + 1, ends, inBlock, inMapping => do
    if ← isNext ends then return .empty
    node fuel inBlock inMapping

/-- The items of a block sequence. -/
def blockItems : Nat → Reader (List Node)
  | 0 => throw .malformed
  | fuel + 1 => do
    if ← take .blockEntry then
      let item ← optionalNode fuel (fun t => t == .blockEntry || t == .blockEnd) true false
      return item :: (← blockItems fuel)
    expect .blockEnd
    return []

/-- The items of a sequence that is indented like the mapping it is part of. -/
def looseItems : Nat → Reader (List Node)
  | 0 => throw .malformed
  | fuel + 1 => do
    if ← take .blockEntry then
      let item ← optionalNode fuel (fun t => t == .blockEntry || endsEntry t) true false
      return item :: (← looseItems fuel)
    return []

/-- The entries of a block mapping. -/
def blockEntries : Nat → Reader (List (Node × Node))
  | 0 => throw .malformed
  | fuel + 1 => do
    if ← take .key then
      let k ← optionalNode fuel endsEntry true true
      let v ← if ← take .value then optionalNode fuel endsEntry true true else pure .empty
      return (k, v) :: (← blockEntries fuel)
    expect .blockEnd
    return []

/-- The value of a key in a flow collection, empty if there is none. -/
def flowValue : Nat → (Token → Bool) → Reader Node
  | 0, _ => throw .malformed
  | fuel + 1, ends => do
    if ← take .value then optionalNode fuel ends false false else return .empty

/-- The items of a flow sequence; an item with a key is a mapping of one entry. -/
def flowItems : Nat → Bool → Reader (List Node)
  | 0, _ => throw .malformed
  | fuel + 1, first => do
    if ← take .flowSequenceEnd then return []
    if !first then expect .flowEntry
    if ← take .key then
      let k ← optionalNode fuel (fun t => t == .value || endsFlowItem t) false false
      let v ← flowValue fuel endsFlowItem
      return .mapping .mapping [(k, v)] :: (← flowItems fuel false)
    if ← take .flowSequenceEnd then return []
    let item ← node fuel false false
    return item :: (← flowItems fuel false)

/-- The entries of a flow mapping. -/
def flowEntries : Nat → Bool → Reader (List (Node × Node))
  | 0, _ => throw .malformed
  | fuel + 1, first => do
    if ← take .flowMappingEnd then return []
    if !first then expect .flowEntry
    if ← take .key then
      let k ← optionalNode fuel (fun t => t == .value || endsFlowEntry t) false false
      let v ← flowValue fuel endsFlowEntry
      return (k, v) :: (← flowEntries fuel false)
    if ← take .flowMappingEnd then return []
    let k ← node fuel false false
    return (k, .empty) :: (← flowEntries fuel false)

end

/-! ## Documents -/

/-- The handles that every document has. -/
def usualHandles : List (String × String) :=
  [("!", "!"), ("!!", Tag.usualStart)]

/-- The directives before a document: at most one version, which must be a version 1, and at most
one text for each handle. -/
def directives : Nat → Bool → List (String × String) → Reader (List (String × String))
  | 0, _, handles => return handles
  | fuel + 1, versioned, handles => do
    match ← peek? with
    | some (.version major) =>
      skip
      if versioned || major != 1 then throw .malformed
      directives fuel true handles
    | some (.tagHandle handle start) =>
      skip
      if handles.any (·.1 == handle) then throw .malformed
      directives fuel versioned (handles ++ [(handle, start)])
    | some .directive =>
      skip
      directives fuel versioned handles
    | _ => return handles

/-- A token that can stand where a document has no content. -/
def endsDocument (t : Token) : Bool :=
  match t with
  | .version _ | .tagHandle .. | .directive | .documentStart | .documentEnd => true
  | _ => false

/-- A token that can stand before a document. -/
def startsDocument (t : Token) : Bool :=
  endsDocument t && t != .documentEnd

/-- The one document that tokens make, if there is one. -/
def document (size : Nat) : Reader (Option Node) := do
  if ← atEnd then return none
  if ← isNext startsDocument then
    let handles ← directives size false []
    modify fun s => { s with handles := handles ++ usualHandles }
    expect .documentStart
    if (← atEnd) || (← isNext endsDocument) then return some .empty
  let n ← node size true false
  return some n

/-- The end of a document, behind which there may be no other. -/
def noFurther : Reader Unit := do
  modify fun s => { s with tokens := s.tokens.dropWhile (· == .documentEnd) }
  if !(← atEnd) then throw .malformed

/-- The node of a document, none if the document is empty. -/
def Node.ofTokens? (tokens : List Token) : Except Problem (Option Node) := do
  let read : Reader (Option Node) := do
    let n ← document (4 * tokens.length + 4)
    noFurther
    return n
  read.run' { tokens, handles := usualHandles }

end LoadPlan.Yaml
