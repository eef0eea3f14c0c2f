import LoadPlan.Proofs.Plan.PartDefects
import LoadPlan.Proofs.Xml.Change

/-!
# Edits of a plan

The edits that break one thing in the tree of a plan: a thread group loses its listener, a sampler
its method, an assertion its test strings, the root an attribute or the test element. They are
written for trees, as somebody who edits a document makes them. In the tree of a plan of test
elements, a change to an element and the tree behind it replaces one part
(`changeBelow_toNode`), so each edit is also described by what it does to a part.
-/

namespace LoadPlan.Plan

open Xml (Node changeIn changeIn_here changeIn_later changeIn_below)

/-! ## Edits of trees -/

/-- Nodes in a row without the first listener and the tree behind it. -/
def dropListener : List Node → List Node
  | [] => []
  | n :: rest => if n.tag == "BackendListener" then rest.drop 1 else n :: dropListener rest

/-- A thread group, and behind it its tree without the listener. -/
def withoutListener (group : Node) : List Node → List Node
  | [] => [group]
  | tree :: rest => group :: tree.mapContent dropListener :: rest

/-- The property that holds the method of a sampler. -/
def isMethod (n : Node) : Bool :=
  n.tag == "stringProp" && n.attribute? "name" == some "HTTPSampler.method"

/-- A sampler without its method. -/
def withoutMethod (sampler : Node) (rest : List Node) : List Node :=
  sampler.mapContent (·.filter (!isMethod ·)) :: rest

/-- The property that holds the test strings of an assertion. -/
def isTestStrings (n : Node) : Bool :=
  n.tag == "collectionProp" && n.attribute? "name" == some "Asserion.test_strings"

/-- An assertion with nothing among its test strings. -/
def withoutTestStrings (assertion : Node) (rest : List Node) : List Node :=
  assertion.mapContent (·.map fun n =>
    if isTestStrings n then n.mapContent fun _ => [] else n) :: rest

/-- A root with an attribute set. -/
def withAttribute (root : Node) (name value : String) : Node :=
  match root with
  | .element tag attributes content => .element tag (setAttribute attributes name value) content
  | .text s => .text s

/-- A root without the test element in its main tree. -/
def withoutTestPlan (root : Node) : Node :=
  root.mapContent (·.modifyHead (·.mapContent (·.filter (·.tag != "TestPlan"))))

/-! ## Edits of parts -/

/-- A thread group without its listener. -/
def TestElement.withoutListener (p : TestElement) : TestElement :=
  { p with owned := p.owned.eraseP (·.element.tag == "BackendListener") }

/-- A sampler without its method. -/
def TestElement.withoutMethod (p : TestElement) : TestElement :=
  { p with
    element :=
      { p.element with properties := p.element.properties.filter (!isMethod ·.toNode) } }

/-- A property that holds nothing, if it is the one for test strings. -/
def emptied (property : Element) : Element :=
  if isTestStrings property.toNode then { property with text := none, properties := [] }
  else property

/-- An assertion with nothing among its test strings. -/
def TestElement.withoutTestStrings (p : TestElement) : TestElement :=
  { p with element := { p.element with properties := p.element.properties.map emptied } }

theorem dropListener_ownedNodes (ts : List TestElement) :
    dropListener (ownedNodes ts) = ownedNodes (ts.eraseP (·.element.tag == "BackendListener")) := by
  induction ts with
  | nil => rfl
  | cons t ts ih =>
    obtain ⟨element, owned⟩ := t
    have htree : ((hashTree (ownedNodes owned)).tag == "BackendListener") = false := rfl
    rw [ownedNodes, TestElement.toNodes, List.cons_append, List.cons_append, List.nil_append,
      dropListener, toNode_tag]
    by_cases h : element.tag = "BackendListener"
    · rw [List.eraseP_cons_of_pos (by simp [h]), if_pos (by simp [h])]
      rfl
    · rw [List.eraseP_cons_of_neg (by simp [h]), if_neg (by simp [h]), dropListener, htree,
        if_neg (by simp), ih]
      rfl

/-- The content of an element without a text is changed with its properties. -/
theorem mapContent_toNode {e : Element} (hbare : e.text = none) {f : List Node → List Node}
    {properties : List Element} (h : f (e.properties.map Element.toNode) =
      properties.map Element.toNode) :
    e.toNode.mapContent f = ({ e with properties := properties } : Element).toNode := by
  obtain ⟨tag, attributes, text, inside⟩ := e
  subst hbare
  simp only [Element.toNode, Node.mapContent, textContent, List.nil_append, nodesOf_eq_map, h]

theorem emptied_toNode (e : Element) : (emptied e).toNode =
    if isTestStrings e.toNode then e.toNode.mapContent fun _ => [] else e.toNode := by
  obtain ⟨tag, attributes, text, properties⟩ := e
  rw [emptied]
  split <;> rfl

section Parts

variable {p : TestElement} (htest : p.element.IsTest) (rest : List Node)

theorem withoutListener_part :
    withoutListener p.element.toNode (hashTree (ownedNodes p.owned) :: rest) =
      p.withoutListener.toNodes ++ rest := by
  have htree : (hashTree (ownedNodes p.owned)).mapContent dropListener =
      hashTree (dropListener (ownedNodes p.owned)) := rfl
  rw [withoutListener, htree, dropListener_ownedNodes]
  rfl

include htest

theorem withoutMethod_part :
    withoutMethod p.element.toNode (hashTree (ownedNodes p.owned) :: rest) =
      p.withoutMethod.toNodes ++ rest := by
  rw [withoutMethod, mapContent_toNode htest.bare List.filter_map]
  rfl

theorem withoutTestStrings_part :
    withoutTestStrings p.element.toNode (hashTree (ownedNodes p.owned) :: rest) =
      p.withoutTestStrings.toNodes ++ rest := by
  have hproperties : (p.element.properties.map Element.toNode).map (fun n =>
      if isTestStrings n then n.mapContent fun _ => [] else n) =
        (p.element.properties.map emptied).map Element.toNode := by
    rw [List.map_map, List.map_map]
    exact List.map_congr_left fun e _ => (emptied_toNode e).symm
  rw [withoutTestStrings, mapContent_toNode htest.bare hproperties]
  rfl

end Parts

/-! ## Changing a part -/

/-- A change of an element and what stands behind it that replaces, among parts with a tag, each by
another. -/
def Replaces (wanted : String) (change : Node → List Node → List Node)
    (f : TestElement → TestElement) : Prop :=
  ∀ p rest, p.element.IsTest → p.element.tag = wanted →
    change p.element.toNode (hashTree (ownedNodes p.owned) :: rest) = (f p).toNodes ++ rest

/-- The nodes of test elements of which one part with a tag and a given element is replaced. -/
def IsChanged (wanted : String) (f : TestElement → TestElement) (found : Node)
    (ts : List TestElement) (ns : List Node) : Prop :=
  ∃ p us, Swapped p (f p) ts us ∧ p.element.tag = wanted ∧ p.element.toNode = found ∧
    ns = ownedNodes us

section Change

variable {wanted : String}

theorem withTag_hashTree_of_ne (htree : wanted ≠ "hashTree") (ns : List Node) :
    (hashTree ns).withTag wanted = Node.withTagIn wanted ns := by
  have hself : ("hashTree" == wanted) = false := by simpa using htree.symm
  rw [withTag_hashTree, hself]
  rfl

theorem changeBelow_hashTree (change : Node → List Node → List Node) (ns : List Node) (k : Nat) :
    (hashTree ns).changeBelow wanted change k = hashTree (changeIn wanted change ns k) :=
  rfl

variable (hwanted : wanted ∉ propertyTags) (htree : wanted ≠ "hashTree")
  {change : Node → List Node → List Node} {f : TestElement → TestElement}
  (hchange : Replaces wanted change f)

include hwanted htree hchange

/-- In the nodes of test elements, changing an element replaces one part. -/
theorem changeIn_ownedNodes (ts : List TestElement) (htest : ∀ p ∈ partsOf ts, p.element.IsTest)
    {k : Nat} {found : Node}
    (hfound : (Node.withTagIn wanted (ownedNodes ts))[k]? = some found) :
    IsChanged wanted f found ts (changeIn wanted change (ownedNodes ts) k) := by
  match ts with
  | [] => simp [ownedNodes, Node.withTagIn] at hfound
  | ⟨element, owned⟩ :: rest =>
    rw [partsOf, TestElement.parts, List.cons_append, List.forall_mem_cons,
      List.forall_mem_append] at htest
    obtain ⟨hself, howned, hrest⟩ := htest
    have hnodes : ownedNodes (⟨element, owned⟩ :: rest) =
        element.toNode :: hashTree (ownedNodes owned) :: ownedNodes rest := rfl
    have hinside := withTag_hashTree_of_ne htree (ownedNodes owned)
    -- Behind the element, the one to change is in its tree or in the rest.
    have hbehind (k : Nat) (hfound : (Node.withTagIn wanted (ownedNodes owned) ++
        Node.withTagIn wanted (ownedNodes rest))[k]? = some found) :
        IsChanged wanted f found (⟨element, owned⟩ :: rest) (element.toNode ::
          changeIn wanted change (hashTree (ownedNodes owned) :: ownedNodes rest) k) := by
      by_cases hlt : k < (Node.withTagIn wanted (ownedNodes owned)).length
      · rw [List.getElem?_append_left hlt] at hfound
        obtain ⟨p, us, hswapped, htag, hp, hus⟩ := changeIn_ownedNodes owned howned hfound
        refine ⟨p, ⟨element, us⟩ :: rest, .inside element rest hswapped, htag, hp, ?_⟩
        rw [changeIn_below (hinside ▸ hlt) fun h => htree h.symm, changeBelow_hashTree, hus]
        rfl
      · rw [List.getElem?_append_right (Nat.not_lt.mp hlt)] at hfound
        obtain ⟨p, us, hswapped, htag, hp, hus⟩ := changeIn_ownedNodes rest hrest hfound
        refine ⟨p, ⟨element, owned⟩ :: us, .later _ hswapped, htag, hp, ?_⟩
        rw [changeIn_later (hinside ▸ Nat.not_lt.mp hlt), hinside, hus]
        rfl
    rw [hnodes, Node.withTagIn, Node.withTagIn, hinside, hself.withTag_eq hwanted] at hfound
    rw [hnodes]
    by_cases htag : element.tag = wanted
    · have hone : element.toNode.withTag wanted = [element.toNode] := by
        rw [hself.withTag_eq hwanted, if_pos (by simp [htag])]
      rw [if_pos (by simp [htag])] at hfound
      cases k with
      | zero =>
        have hsame : element.toNode = found := by simpa using hfound
        refine ⟨⟨element, owned⟩, f ⟨element, owned⟩ :: rest, .here rest, htag, hsame, ?_⟩
        rw [changeIn_here element.toNode_isElement ((toNode_tag element).trans htag),
          hchange ⟨element, owned⟩ _ hself htag]
        rfl
      | succ k =>
        rw [changeIn_later (by simp [hone]), hone]
        exact hbehind k (by simpa using hfound)
    · have hnone : element.toNode.withTag wanted = [] := by
        rw [hself.withTag_eq hwanted, if_neg (by simp [htag])]
      rw [if_neg (by simp [htag])] at hfound
      rw [changeIn_later (by simp [hnone]), hnone]
      exact hbehind k (by simpa using hfound)

/-- In the tree of a plan, changing an element replaces one part. -/
theorem changeBelow_toNode {d : Document} (htest : ∀ p ∈ partsOf d.elements, p.element.IsTest)
    {k : Nat} {found : Node} (hfound : (below d.toNode wanted)[k]? = some found) :
    ∃ p us, Swapped p (f p) d.elements us ∧ p.element.tag = wanted ∧ p.element.toNode = found ∧
      d.toNode.changeBelow wanted change k = Document.toNode ⟨d.attributes, us⟩ := by
  have hmain := withTag_hashTree_of_ne htree (ownedNodes d.elements)
  have hbelow : below d.toNode wanted = Node.withTagIn wanted (ownedNodes d.elements) := by
    rw [below, Document.toNode, Node.content, Node.withTagIn, Node.withTagIn, hmain,
      List.append_nil]
  rw [hbelow] at hfound
  obtain ⟨hlt, -⟩ := List.getElem?_eq_some_iff.mp hfound
  obtain ⟨p, us, hswapped, htag, hp, hus⟩ :=
    changeIn_ownedNodes hwanted htree hchange d.elements htest hfound
  refine ⟨p, us, hswapped, htag, hp, ?_⟩
  rw [Document.toNode, Node.changeBelow, changeIn_below (hmain ▸ hlt) fun h => htree h.symm,
    changeBelow_hashTree, hus]
  rfl

end Change

end LoadPlan.Plan
