import LoadPlan.Fault
import LoadPlan.Value.Printer
import LoadPlan.Xml.Printer

/-!
# Elements of a plan

A plan is made of elements with properties and of test elements, which are elements that own other
test elements. In a document the owned ones stand in a tree of their own, right behind the element:
each test element takes exactly two places, itself and its tree.
-/

namespace LoadPlan

/-- A value as text of a plan: nothing for null, small words for truth values, and otherwise its
text without the characters that a document cannot hold. -/
def Value.planText? : Value → Option String
  | .null => none
  | .bool b => some (if b then "true" else "false")
  | v => some (String.ofList (v.display.toList.filter Xml.isChar))

namespace Plan

/-- An element with properties. -/
structure Element where
  tag : String
  attributes : List (String × String) := []
  text : Option String := none
  properties : List Element := []
  deriving Inhabited, Repr

/-- An element with the test elements it owns. -/
structure TestElement where
  element : Element
  owned : List TestElement := []
  deriving Inhabited, Repr

/-- Attributes with one of them set: replaced, or added at the end. -/
def setAttribute (attributes : List (String × String)) (name value : String) :
    List (String × String) :=
  if attributes.any (·.1 == name) then
    attributes.map fun a => if a.1 == name then (name, value) else a
  else attributes ++ [(name, value)]

/-- The texts of attributes; of two with one name the last counts, in the first place. -/
def attributesOf (attributes : List (String × Value)) : List (String × String) :=
  attributes.foldl (fun done a => setAttribute done a.1 (a.2.planText?.getD "")) []

namespace Element

/-- An element with attributes and a text. -/
def make (tag : String) (attributes : List (String × Value)) (text : Value) : Element where
  tag := tag
  attributes := attributesOf attributes
  text := text.planText?

/-- An element with one more property at the end. -/
def add (e property : Element) : Element :=
  { e with properties := e.properties ++ [property] }

/-- An element with more properties at the end. -/
def addAll (e : Element) (properties : List Element) : Element :=
  { e with properties := e.properties ++ properties }

end Element

/-! ## Properties -/

/-- A property with a name and a value. -/
def property (tag : String) (name value : Value) : Element :=
  .make tag [("name", name)] value

/-- A property that holds a text, empty if it has none. -/
def stringProp (name : String) (value : Value) : Element :=
  property "stringProp" (.text name) (if value.isNull then .text "" else value)

/-- A property that holds a truth value. -/
def boolProp (name : String) (value : Bool) : Element :=
  property "boolProp" (.text name) (.bool value)

/-- A property that holds an integer. -/
def intProp (name : String) (value : Int) : Element :=
  property "intProp" (.text name) (.int value)

/-- A property that holds others in a row. -/
def collectionProp (name : String) (items : List Element) : Element :=
  (Element.make "collectionProp" [("name", .text name)] .null).addAll items

/-- A property that is an element of a type. -/
def elementProp (name type : String) (attributes : List (String × Value))
    (properties : List Element) : Element :=
  (Element.make "elementProp" ([("name", .text name), ("elementType", .text type)] ++ attributes)
    .null).addAll properties

/-! ## Trees -/

/-- A text as content, unless it is missing or empty. -/
def textContent : Option String → List Xml.Node
  | none => []
  | some s => if s.isEmpty then [] else [.text s]

mutual

/-- The tree of an element: its text, then its properties. -/
def Element.toNode : Element → Xml.Node
  | ⟨tag, attributes, text, properties⟩ =>
    .element tag attributes (textContent text ++ nodesOf properties)

/-- The trees of elements. -/
def nodesOf : List Element → List Xml.Node
  | [] => []
  | e :: rest => e.toNode :: nodesOf rest

end

/-- The tree that holds test elements. -/
def hashTree (content : List Xml.Node) : Xml.Node :=
  .element "hashTree" [] content

mutual

/-- The two trees of a test element: its own and the one of what it owns. -/
def TestElement.toNodes : TestElement → List Xml.Node
  | ⟨element, owned⟩ => [element.toNode, hashTree (ownedNodes owned)]

/-- The trees of test elements, two for each. -/
def ownedNodes : List TestElement → List Xml.Node
  | [] => []
  | t :: rest => t.toNodes ++ ownedNodes rest

end

/-- A test element with one more at the end of those it owns. -/
def TestElement.put (t owned : TestElement) : TestElement :=
  { t with owned := t.owned ++ [owned] }

/-- A test element with a property added to its element. -/
def TestElement.add (t : TestElement) (property : Element) : TestElement :=
  { t with element := t.element.add property }

/-! ## Documents -/

/-- A whole plan: the attributes of its root and its test elements. -/
structure Document where
  attributes : List (String × String)
  elements : List TestElement

/-- The tree of a plan. -/
def Document.toNode (d : Document) : Xml.Node :=
  .element "jmeterTestPlan" d.attributes [hashTree (ownedNodes d.elements)]

/-- The text of a plan; a name that cannot stand in a document is refused. -/
def Document.render (d : Document) : Except Fault String :=
  if d.toNode.hasNames then .ok (Xml.document d.toNode.unifyLines) else .error .badName

end Plan

end LoadPlan
