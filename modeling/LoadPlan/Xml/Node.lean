/-!
# XML trees

An element has a tag, attributes in order and content, which is made of elements and texts.
-/

namespace LoadPlan.Xml

/-- A piece of content. -/
inductive Node where
  | element (tag : String) (attributes : List (String × String)) (content : List Node)
  | text (s : String)
  deriving Inhabited, Repr

namespace Node

/-- The tag of an element, empty for a text. -/
def tag : Node → String
  | element tag _ _ => tag
  | text _ => ""

/-- The attributes of an element. -/
def attributes : Node → List (String × String)
  | element _ attributes _ => attributes
  | text _ => []

/-- The content of an element. -/
def content : Node → List Node
  | element _ _ content => content
  | text _ => []

/-- Whether a node is an element. -/
def isElement : Node → Bool
  | element .. => true
  | text _ => false

/-- The elements that an element holds. -/
def children (n : Node) : List Node :=
  n.content.filter isElement

/-- The value of an attribute. -/
def attribute? (n : Node) (name : String) : Option String :=
  (n.attributes.find? (·.1 == name)).map (·.2)

/-- The text at the start of content, up to its first element. -/
def leadingText : List Node → String
  | text s :: rest => s ++ leadingText rest
  | _ => ""

/-- The text of an element before the elements it holds. -/
def ownText (n : Node) : String :=
  leadingText n.content

mutual

/-- An element and those below it that have a tag, in document order. -/
def withTag (wanted : String) : Node → List Node
  | element tag attributes content =>
    let below := withTagIn wanted content
    if tag == wanted then element tag attributes content :: below else below
  | text _ => []

/-- The elements with a tag among nodes and below them. -/
def withTagIn (wanted : String) : List Node → List Node
  | [] => []
  | n :: rest => withTag wanted n ++ withTagIn wanted rest

end

end Node

end LoadPlan.Xml
