import LoadPlan.Proofs.Plan.ReadBack

/-!
# Counting properties

Properties of a kind are counted in a whole document, and a reader counts as many as were written
(`count_readFrom`). What was written is counted part by part: a kind that only requests need, for
what they send, is counted request by request (`OnlySent.count_compiledTest`). So a plan has one
mark of a raw body for each body (`count_rawBody`), and one property with arguments for each body and
for the parameters of each request that sends them (`count_arguments`).
-/

namespace LoadPlan.Plan

open Xml (Node ReadFrom readValue isSpace)

/-! ## Counting -/

/-- Whether an element has attributes with given values. -/
def hasAttributes (wanted : List (String × String)) (n : Node) : Bool :=
  wanted.all fun a => n.attribute? a.1 == some a.2

/-- The number of elements in a tree that have a tag and attributes with given values. -/
def count (tag : String) (wanted : List (String × String)) (n : Node) : Nat :=
  (n.withTag tag).countP (hasAttributes wanted)

/-- The number of elements that an element holds itself and that have attributes with given
values. -/
def ownCount (wanted : List (String × String)) (n : Node) : Nat :=
  n.children.countP (hasAttributes wanted)

/-- Values that are read as they were written. -/
def HaveNoBlanks (wanted : List (String × String)) : Prop :=
  ∀ a ∈ wanted, ∀ c ∈ a.2.toList, isSpace c = false

theorem countP_of_forall₂ {α β : Type} {R : α → β → Prop} {p : α → Bool} {q : β → Bool}
    {as : List α} {bs : List β} (h : List.Forall₂ R as bs) (hsame : ∀ a b, R a b → p a = q b) :
    as.countP p = bs.countP q := by
  induction h with
  | nil => rfl
  | cons hab _ ih => rw [List.countP_cons, List.countP_cons, ih, hsame _ _ hab]

theorem sum_flatMap {α : Type} (l : List α) (f : α → List Nat) :
    (l.flatMap f).sum = (l.map fun a => (f a).sum).sum := by
  rw [List.flatMap_def, List.sum_flatten, List.map_map]
  rfl

section Read

variable {read written : Node} (h : ReadFrom read written) {wanted : List (String × String)}
  (hwanted : HaveNoBlanks wanted)

include h hwanted

theorem hasAttributes_readFrom : hasAttributes wanted read = hasAttributes wanted written := by
  unfold hasAttributes
  rw [Bool.eq_iff_iff, List.all_eq_true, List.all_eq_true]
  refine forall₂_congr fun a ha => ?_
  rw [h.attribute?]
  cases written.attribute? a.1 with
  | none => exact Iff.rfl
  | some s => simpa [readValue] using Xml.asRead_keeps.value s a.2 (hwanted a ha)

/-- A reader finds as many elements as were written. -/
theorem count_readFrom (tag : String) : count tag wanted read = count tag wanted written :=
  countP_of_forall₂ (h.withTag tag) fun _ _ hread => hasAttributes_readFrom hread hwanted

theorem ownCount_readFrom : ownCount wanted read = ownCount wanted written :=
  countP_of_forall₂ h.children fun _ _ hread => hasAttributes_readFrom hread hwanted

end Read

/-! ## Elements -/

mutual

/-- An element and all that its properties hold, in order. -/
def Element.inside : Element → List Element
  | ⟨tag, attributes, text, properties⟩ => ⟨tag, attributes, text, properties⟩ :: insideOf properties

/-- Elements and all that their properties hold, in order. -/
def insideOf : List Element → List Element
  | [] => []
  | e :: rest => e.inside ++ insideOf rest

end

theorem insideOf_eq_flatMap (es : List Element) : insideOf es = es.flatMap Element.inside := by
  induction es with
  | nil => rfl
  | cons e es ih => rw [insideOf, ih, List.flatMap_cons]

/-- Whether an element is one of those that are counted. -/
def isCounted (tag : String) (wanted : List (String × String)) (e : Element) : Bool :=
  e.tag == tag && hasAttributes wanted e.toNode

/-- The number of elements that are counted among an element and all that its properties hold. -/
def Element.number (tag : String) (wanted : List (String × String)) (e : Element) : Nat :=
  e.inside.countP (isCounted tag wanted)

section Below

variable (wanted : String)

mutual

theorem Element.withTag_toNode (e : Element) :
    e.toNode.withTag wanted = (e.inside.filter (·.tag == wanted)).map Element.toNode := by
  obtain ⟨tag, attributes, text, properties⟩ := e
  rw [Node.withTag_eq wanted (Element.toNode_isElement _), children_toNode,
    withTagIn_properties properties, Element.inside, List.filter_cons, toNode_tag]
  cases tag == wanted <;> simp

theorem withTagIn_properties (es : List Element) :
    Node.withTagIn wanted (es.map Element.toNode) =
      ((insideOf es).filter (·.tag == wanted)).map Element.toNode := by
  match es with
  | [] => rfl
  | e :: rest =>
    rw [List.map_cons, Node.withTagIn, e.withTag_toNode, withTagIn_properties rest, insideOf,
      List.filter_append, List.map_append]

end

mutual

/-- Below a test element, all elements apart from trees are those of its parts. -/
theorem TestElement.withTagIn_toNodes (htree : wanted ≠ "hashTree") (t : TestElement) :
    Node.withTagIn wanted t.toNodes =
      t.parts.flatMap fun p => p.element.toNode.withTag wanted := by
  obtain ⟨element, owned⟩ := t
  have hself : ("hashTree" == wanted) = false := by simpa using htree.symm
  rw [TestElement.toNodes, TestElement.parts, Node.withTagIn, Node.withTagIn, Node.withTagIn,
    withTag_hashTree, hself, withTagIn_owned htree owned, List.flatMap_cons]
  simp

theorem withTagIn_owned (htree : wanted ≠ "hashTree") (ts : List TestElement) :
    Node.withTagIn wanted (ownedNodes ts) =
      (partsOf ts).flatMap fun p => p.element.toNode.withTag wanted := by
  match ts with
  | [] => rfl
  | t :: rest =>
    rw [ownedNodes, partsOf, Node.withTagIn_eq_flatMap, List.flatMap_append, List.flatMap_append,
      ← Node.withTagIn_eq_flatMap, ← Node.withTagIn_eq_flatMap, t.withTagIn_toNodes htree,
      withTagIn_owned htree rest]

end

theorem Document.withTag_toNode (htree : wanted ≠ "hashTree") (hroot : wanted ≠ "jmeterTestPlan")
    (d : Document) : d.toNode.withTag wanted =
      (partsOf d.elements).flatMap fun p => p.element.toNode.withTag wanted := by
  have hself : ("hashTree" == wanted) = false := by simpa using htree.symm
  have hfalse : ("jmeterTestPlan" == wanted) = false := by simpa using hroot.symm
  rw [Document.toNode, Node.withTag, Node.withTagIn, Node.withTagIn, withTag_hashTree,
    withTagIn_owned wanted htree, hself]
  simp [hfalse]

end Below

/-! ## Counts of a compiled test -/

section Count

variable (tag : String) (wanted : List (String × String))

@[simp]
theorem count_toNode (e : Element) :
    count tag wanted e.toNode = e.number tag wanted := by
  unfold count Element.number
  rw [e.withTag_toNode, List.countP_map, List.countP_filter]
  refine List.countP_congr fun p _ => ?_
  simp [isCounted, and_comm]

theorem number_eq (e : Element) : e.number tag wanted =
    (if isCounted tag wanted e then 1 else 0) + (e.properties.map (·.number tag wanted)).sum := by
  obtain ⟨etag, attributes, text, properties⟩ := e
  unfold Element.number
  rw [Element.inside, List.countP_cons, insideOf_eq_flatMap, List.countP_flatMap, Nat.add_comm]
  rfl

theorem number_addAll (e : Element) (properties : List Element) :
    (e.addAll properties).number tag wanted =
      e.number tag wanted + (properties.map (·.number tag wanted)).sum := by
  have hself : isCounted tag wanted (e.addAll properties) = isCounted tag wanted e := by
    obtain ⟨etag, attributes, text, inside⟩ := e
    rfl
  rw [number_eq, number_eq tag wanted e, hself, Element.addAll, List.map_append, List.sum_append]
  omega

/-- With a collection of elements among which none is counted, an element counts as with an empty
one. -/
theorem number_collection {α : Type} {f : α → Element} (h : ∀ a, (f a).number tag wanted = 0)
    (e : Element) (name : String) (as : List α) :
    (e.addAll [collectionProp name (as.map f)]).number tag wanted =
      (e.addAll [collectionProp name []]).number tag wanted := by
  have hnone : ((as.map f).map (·.number tag wanted)).sum = 0 := by
    simp [Function.comp_def, h]
  have hitems (items : List Element) :
      (e.addAll [collectionProp name items]).number tag wanted =
        e.number tag wanted +
          ((Element.make "collectionProp" [("name", .text name)] .null).number tag wanted +
            (items.map (·.number tag wanted)).sum) := by
    rw [number_addAll, List.map_singleton, List.sum_singleton, collectionProp, number_addAll]
  rw [hitems, hitems, hnone]
  rfl

end Count

/-! ## What requests send -/

/-- A request sends nothing, arguments, or a body. -/
theorem payload_cases (r : Request) (get : Bool) :
    payload r get = ⟨[], {}⟩ ∨
      (∃ kvs alwaysEncode,
        payload r get = ⟨[arguments kvs alwaysEncode], { arguments := 1 }⟩) ∨
      ∃ raw kvs alwaysEncode,
        payload r get = ⟨[rawBodyProp raw, arguments kvs alwaysEncode], { bodies := 1 }⟩ := by
  unfold payload
  split
  · exact .inl rfl
  · split
    · dsimp only
      split
      · exact .inl rfl
      · exact .inr (.inl ⟨_, _, rfl⟩)
    · split
      · exact .inl rfl
      · split <;> exact .inr (.inr ⟨_, _, _, rfl⟩)

/-- What a request sends is one property that holds its arguments, and one more for a body. -/
theorem sum_payload (weight : Element → Nat) {lists marks : Nat}
    (hlist : ∀ kvs alwaysEncode, weight (arguments kvs alwaysEncode) = lists)
    (hmark : ∀ raw, weight (rawBodyProp raw) = marks) (r : Request) (get : Bool) :
    ((payload r get).part.map weight).sum =
      lists * ((payload r get).stats.arguments + (payload r get).stats.bodies) +
        marks * (payload r get).stats.bodies := by
  rcases payload_cases r get with h | ⟨kvs, alwaysEncode, h⟩ | ⟨raw, kvs, alwaysEncode, h⟩
  · simp [h]
  · simp [h, hlist]
  · simp [h, hlist, hmark, Nat.add_comm]

/-- A sampler has the properties that every sampler has, and what its request sends. -/
theorem ownCount_requestPart {wanted : List (String × String)}
    (hbare : ∀ name e, ownCount wanted (endpointSampler name e).element.toNode = 0) (r : Request) :
    ownCount wanted (requestPart r).part.element.toNode =
      ((payload r (usesGet r)).part.map fun p =>
        [p.toNode].countP (hasAttributes wanted)).sum := by
  have hown := hbare r.name { method := r.method, address := r.address? (usesGet r) }
  rw [ownCount, children_toNode] at hown
  rw [ownCount, children_toNode, requestPart, compiledRequest, requestOf, Element.addAll,
    List.map_append, List.countP_append, hown, Nat.zero_add, List.map_eq_flatMap,
    List.countP_flatMap]
  rfl

/-! ## Properties of requests alone -/

/-- A kind of properties of which a plan has none, apart from those that hold what its requests
send; and in these, no single header and no single argument is one. -/
structure OnlySent (tag : String) (wanted : List (String × String)) : Prop where
  noTree : tag ≠ "hashTree"
  noRoot : tag ≠ "jmeterTestPlan"
  plan : ∀ name comments,
    (testPlan name comments).element.number tag wanted = 0
  group : ∀ name threads rampTime loops onSampleError,
    (threadGroup name threads rampTime loops onSampleError).element.number tag wanted = 0
  listener : ∀ name listener,
    (backendListener name listener).element.number tag wanted = 0
  manager : ∀ name, (headerManager name []).element.number tag wanted = 0
  header : ∀ kv, (header kv).number tag wanted = 0
  regex : ∀ field name type pattern message,
    (responseAssertion field name type pattern message).element.number tag wanted = 0
  duration : ∀ name value,
    (durationAssertion name value).element.number tag wanted = 0
  bare : ∀ name e, (endpointSampler name e).element.number tag wanted = 0
  argument : ∀ alwaysEncode kv,
    (argument alwaysEncode kv).number tag wanted = 0

section Requests

variable {tag : String} {wanted : List (String × String)} (h : OnlySent tag wanted)

include h

theorem OnlySent.detail {t : TestElement} (ht : IsDetail t) :
    t.element.number tag wanted = 0 := by
  cases ht with
  | headers name entries =>
    have hitems := number_collection tag wanted h.header
      (standard "HeaderManager" "HeaderPanel" name []).element "HeaderManager.headers" entries
    exact hitems.trans (h.manager name)
  | regex field name type pattern message => exact h.regex field name type pattern message
  | duration name value => exact h.duration name value

/-- However many arguments there are, only the property that holds them can be counted. -/
theorem OnlySent.number_arguments (kvs : List KeyValue) (alwaysEncode : Value) :
    (arguments kvs alwaysEncode).number tag wanted =
      (arguments [] alwaysEncode).number tag wanted :=
  number_collection tag wanted (h.argument alwaysEncode) _ "Arguments.arguments" kvs

/-- Properties of requests alone are counted request by request. -/
theorem OnlySent.count_compiledTest (settings : Settings) (t : Test) :
    count tag wanted (compiledTest settings t).part.toNode =
      (t.requests.map fun r =>
        ((payload r (usesGet r)).part.map (·.number tag wanted)).sum).sum := by
  have hplan : (planPart settings t).element.number tag wanted = 0 := h.plan _ _
  have hgroup (s : Scenario) : (scenarioPart settings s).part.element.number tag wanted = 0 :=
    h.group _ _ _ _ _
  have hlistener : (listenerPart settings).element.number tag wanted = 0 := h.listener _ _
  have hsampler (r : Request) : (requestPart r).part.element.number tag wanted =
      ((payload r (usesGet r)).part.map (·.number tag wanted)).sum := by
    have hbare := h.bare r.name { method := r.method, address := r.address? (usesGet r) }
    rw [requestPart, compiledRequest, requestOf, number_addAll, hbare, Nat.zero_add]
  have hdetails (r : Request) : ((details r).map (·.element.number tag wanted)).sum = 0 := by
    rw [List.sum_eq_zero]
    intro n hn
    obtain ⟨d, hd, rfl⟩ := List.mem_map.mp hn
    rw [h.detail (details_isDetail r d hd)]
  rw [count, Document.withTag_toNode tag h.noTree h.noRoot, List.countP_flatMap]
  change ((partsOf (compiledTest settings t).part.elements).map fun p =>
    count tag wanted p.element.toNode).sum = _
  rw [partsOf_compiledTest]
  simp [hplan, hgroup, hlistener, hsampler, hdetails, Test.requests, List.map_flatMap,
    sum_flatMap]

end Requests

/-! ## Raw bodies and arguments -/

/-- The name of the properties that say whether a body is raw. -/
def rawBodyName : List (String × String) :=
  [("name", "HTTPSampler.postBodyRaw")]

/-- The name of the properties that hold the arguments of a request. -/
def argumentsName : List (String × String) :=
  [("name", "HTTPsampler.Arguments")]

/-- The type and the name of the properties that hold the arguments of a request. A single argument
can be given this name too, but it is of another type. -/
def argumentsKind : List (String × String) :=
  [("elementType", "Arguments"), ("name", "HTTPsampler.Arguments")]

theorem onlySent_rawBody : OnlySent "boolProp" rawBodyName where
  noTree := by decide
  noRoot := by decide
  plan _ _ := rfl
  group _ _ _ _ _ := rfl
  listener _ _ := rfl
  manager _ := rfl
  header _ := rfl
  regex _ _ _ _ _ := rfl
  duration _ _ := rfl
  bare _ _ := by
    unfold endpointSampler
    split <;> rfl
  argument _ kv := by
    unfold argument
    dsimp only
    cases (kv.name.orElse (.text "")).isTruthy <;> rfl

theorem onlySent_arguments : OnlySent "elementProp" argumentsKind where
  noTree := by decide
  noRoot := by decide
  plan _ _ := rfl
  group _ _ _ _ _ := rfl
  listener _ _ := rfl
  manager _ := rfl
  header _ := rfl
  regex _ _ _ _ _ := rfl
  duration _ _ := rfl
  bare _ _ := by
    unfold endpointSampler
    split <;> rfl
  argument _ kv := by
    unfold argument
    dsimp only
    cases (kv.name.orElse (.text "")).isTruthy <;> rfl

/-- Each body is marked once as raw or not. -/
theorem count_rawBody (settings : Settings) (t : Test) :
    count "boolProp" rawBodyName (compiledTest settings t).part.toNode =
      (t.requests.map fun r => (payload r (usesGet r)).stats.bodies).sum := by
  have hlist (kvs : List KeyValue) (v : Value) :
      (arguments kvs v).number "boolProp" rawBodyName = 0 :=
    onlySent_rawBody.number_arguments kvs v
  have hmark (v : Value) : (rawBodyProp v).number "boolProp" rawBodyName = 1 :=
    rfl
  rw [onlySent_rawBody.count_compiledTest, List.map_congr_left fun r _ =>
    sum_payload _ hlist hmark r (usesGet r)]
  simp

/-- Arguments and bodies are each held by one property. -/
theorem count_arguments (settings : Settings) (t : Test) :
    count "elementProp" argumentsKind (compiledTest settings t).part.toNode =
      (t.requests.map fun r => (payload r (usesGet r)).stats.arguments +
        (payload r (usesGet r)).stats.bodies).sum := by
  have hlist (kvs : List KeyValue) (v : Value) :
      (arguments kvs v).number "elementProp" argumentsKind = 1 :=
    onlySent_arguments.number_arguments kvs v
  have hmark (v : Value) :
      (rawBodyProp v).number "elementProp" argumentsKind = 0 :=
    rfl
  rw [onlySent_arguments.count_compiledTest, List.map_congr_left fun r _ =>
    sum_payload _ hlist hmark r (usesGet r)]
  simp

theorem ownCount_rawBody (r : Request) :
    ownCount rawBodyName (requestPart r).part.element.toNode =
      (payload r (usesGet r)).stats.bodies := by
  have hbare (name : Value) (e : Endpoint) :
      ownCount rawBodyName (endpointSampler name e).element.toNode = 0 := by
    unfold endpointSampler
    split <;> rfl
  have hlist (kvs : List KeyValue) (v : Value) :
      [(arguments kvs v).toNode].countP (hasAttributes rawBodyName) = 0 :=
    rfl
  have hmark (v : Value) : [(rawBodyProp v).toNode].countP (hasAttributes rawBodyName) = 1 :=
    rfl
  rw [ownCount_requestPart hbare, sum_payload _ hlist hmark]
  simp

theorem ownCount_arguments (r : Request) :
    ownCount argumentsName (requestPart r).part.element.toNode =
      (payload r (usesGet r)).stats.arguments + (payload r (usesGet r)).stats.bodies := by
  have hbare (name : Value) (e : Endpoint) :
      ownCount argumentsName (endpointSampler name e).element.toNode = 0 := by
    unfold endpointSampler
    split <;> rfl
  have hlist (kvs : List KeyValue) (v : Value) :
      [(arguments kvs v).toNode].countP (hasAttributes argumentsName) = 1 :=
    rfl
  have hmark (v : Value) : [(rawBodyProp v).toNode].countP (hasAttributes argumentsName) = 0 :=
    rfl
  rw [ownCount_requestPart hbare, sum_payload _ hlist hmark]
  simp

end LoadPlan.Plan
