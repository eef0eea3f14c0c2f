import LoadPlan.Proofs.Plan.Defects
import LoadPlan.Proofs.Plan.Parts
import LoadPlan.Proofs.Plan.Shape
import LoadPlan.Proofs.Settings

/-!
# A compiled plan passes its review

The tree of a plan is searched through its test elements: below an element with properties there are
none of the tags that a review looks for. So a rendered plan has defects only if the text of its
version or of a method is empty, and this is when no character of the value can stand in a document.
-/

namespace LoadPlan.Plan

open Logged
open Xml (Node isChar)

/-! ## Test elements -/

mutual

/-- A test element and all that it owns, in order. -/
def TestElement.parts : TestElement → List TestElement
  | ⟨element, owned⟩ => ⟨element, owned⟩ :: partsOf owned

/-- Test elements and all that they own, in order. -/
def partsOf : List TestElement → List TestElement
  | [] => []
  | t :: rest => t.parts ++ partsOf rest

end

theorem partsOf_eq_flatMap (ts : List TestElement) : partsOf ts = ts.flatMap TestElement.parts := by
  induction ts with
  | nil => rfl
  | cons t ts ih => simp [partsOf, ih]

theorem Element.IsProperty.withTag_eq_nil {e : Element} (h : e.IsProperty) {wanted : String}
    (hwanted : wanted ∉ propertyTags) : e.toNode.withTag wanted = [] := by
  induction h with
  | @mk tag attributes text properties tagged named chars apart inside ih =>
    have hne : tag ≠ wanted := fun heq => hwanted (heq ▸ tagged)
    rw [Node.withTag_eq wanted (Element.toNode_isElement _), children_toNode,
      Node.withTagIn_eq_flatMap, List.flatMap_map, List.flatMap_eq_nil_iff.mpr ih]
    simp [Element.toNode, Node.tag, hne]

theorem Element.IsTest.withTag_eq {e : Element} (h : e.IsTest) {wanted : String}
    (hwanted : wanted ∉ propertyTags) :
    e.toNode.withTag wanted = if e.tag == wanted then [e.toNode] else [] := by
  have hnone : ∀ p ∈ e.properties, p.toNode.withTag wanted = [] :=
    fun p hp => (h.inside p hp).withTag_eq_nil hwanted
  rw [Node.withTag_eq wanted e.toNode_isElement, children_toNode, Node.withTagIn_eq_flatMap,
    List.flatMap_map, List.flatMap_eq_nil_iff.mpr hnone, List.append_nil]
  obtain ⟨tag, attributes, text, properties⟩ := e
  simp [Element.toNode, Node.tag]

/-- What is found among the nodes of test elements is found in each of them. -/
theorem withTagIn_ownedNodes (wanted : String) (ts : List TestElement) :
    Node.withTagIn wanted (ownedNodes ts) =
      ts.flatMap fun t => Node.withTagIn wanted t.toNodes := by
  rw [Node.withTagIn_eq_flatMap, ownedNodes_eq_flatMap, List.flatMap_assoc]
  simp [Node.withTagIn_eq_flatMap]

theorem withTag_hashTree (wanted : String) (ns : List Node) :
    (hashTree ns).withTag wanted =
      (if "hashTree" == wanted then [hashTree ns] else []) ++ Node.withTagIn wanted ns := by
  rw [hashTree, Node.withTag]
  split <;> simp

/-- The elements with a tag among the nodes of a test element are those of its parts. -/
theorem TestElement.Sound.withTagIn_eq {t : TestElement} (h : t.Sound) {wanted : String}
    (hwanted : wanted ∉ propertyTags) (htree : wanted ≠ "hashTree") :
    Node.withTagIn wanted t.toNodes =
      (t.parts.filter (·.element.tag == wanted)).map (·.element.toNode) := by
  induction h with
  | @mk element owned test inside ih =>
    have hbelow : Node.withTagIn wanted (ownedNodes owned) =
        ((partsOf owned).filter (·.element.tag == wanted)).map (·.element.toNode) := by
      rw [withTagIn_ownedNodes, List.flatMap_congr ih, partsOf_eq_flatMap, List.filter_flatMap,
        List.map_flatMap]
    have hself : ("hashTree" == wanted) = false := by simpa using htree.symm
    rw [toNodes, parts, Node.withTagIn, Node.withTagIn, Node.withTagIn, test.withTag_eq hwanted,
      withTag_hashTree, hbelow, hself]
    cases h : element.tag == wanted <;> simp [h]

/-- The trees below a test element are those of what its parts own. -/
theorem TestElement.Sound.hashTrees_eq {t : TestElement} (h : t.Sound)
    (hparts : ∀ p ∈ t.parts, p.element.tag ≠ "hashTree") :
    Node.withTagIn "hashTree" t.toNodes = t.parts.map fun p => hashTree (ownedNodes p.owned) := by
  induction h with
  | @mk element owned test inside ih =>
    rw [parts, List.forall_mem_cons] at hparts
    obtain ⟨hself, howned⟩ := hparts
    rw [partsOf_eq_flatMap] at howned
    have hbelow : Node.withTagIn "hashTree" (ownedNodes owned) =
        (partsOf owned).map fun p => hashTree (ownedNodes p.owned) := by
      rw [withTagIn_ownedNodes, partsOf_eq_flatMap, List.map_flatMap]
      exact List.flatMap_congr fun t ht =>
        ih t ht fun p hp => howned p (List.mem_flatMap.mpr ⟨t, ht, hp⟩)
    have hfalse : (element.tag == "hashTree") = false := by simpa using hself
    rw [toNodes, parts, Node.withTagIn, Node.withTagIn, Node.withTagIn,
      test.withTag_eq (by decide), withTag_hashTree, hbelow, hfalse]
    simp

/-! ## Documents -/

section Document

variable {d : Document} (h : d.Sound)

include h

theorem Document.Sound.withTag_eq {wanted : String} (hwanted : wanted ∉ propertyTags)
    (htree : wanted ≠ "hashTree") (hroot : wanted ≠ "jmeterTestPlan") :
    d.toNode.withTag wanted =
      ((partsOf d.elements).filter (·.element.tag == wanted)).map (·.element.toNode) := by
  have hbelow : Node.withTagIn wanted (ownedNodes d.elements) =
      ((partsOf d.elements).filter (·.element.tag == wanted)).map (·.element.toNode) := by
    rw [withTagIn_ownedNodes, partsOf_eq_flatMap, List.filter_flatMap, List.map_flatMap]
    exact List.flatMap_congr fun t ht => (h.inside t ht).withTagIn_eq hwanted htree
  have hself : ("hashTree" == wanted) = false := by simpa using htree.symm
  have hfalse : ("jmeterTestPlan" == wanted) = false := by simpa using hroot.symm
  rw [Document.toNode, Node.withTag, Node.withTagIn, Node.withTagIn, withTag_hashTree, hbelow,
    hself]
  simp [hfalse]

theorem Document.Sound.hashTrees_eq
    (hparts : ∀ p ∈ partsOf d.elements, p.element.tag ≠ "hashTree") :
    d.toNode.withTag "hashTree" = hashTree (ownedNodes d.elements) ::
      (partsOf d.elements).map fun p => hashTree (ownedNodes p.owned) := by
  rw [partsOf_eq_flatMap] at hparts ⊢
  have hbelow : Node.withTagIn "hashTree" (ownedNodes d.elements) =
      (d.elements.flatMap TestElement.parts).map fun p => hashTree (ownedNodes p.owned) := by
    rw [withTagIn_ownedNodes, List.map_flatMap]
    exact List.flatMap_congr fun t ht => (h.inside t ht).hashTrees_eq
      fun p hp => hparts p (List.mem_flatMap.mpr ⟨t, ht, hp⟩)
  rw [Document.toNode, Node.withTag, Node.withTagIn, Node.withTagIn, withTag_hashTree, hbelow]
  simp

end Document

/-! ## Groups -/

@[simp]
theorem children_hashTree (ts : List TestElement) :
    (hashTree (ownedNodes ts)).children = ownedNodes ts := by
  rw [hashTree, Node.children, Node.content, List.filter_eq_self, ownedNodes_eq_flatMap]
  intro n hn
  obtain ⟨t, -, hn⟩ := List.mem_flatMap.mp hn
  exact TestElement.isElement_of_mem hn

@[simp]
theorem toNode_tag (e : Element) : e.toNode.tag = e.tag := by
  obtain ⟨tag, attributes, text, properties⟩ := e
  rfl

/-- Thread groups whose trees end with a listener have no defects. -/
theorem groupDefects_ownedNodes {ts : List TestElement} (h : ∀ t ∈ ts,
    t.element.tag = "ThreadGroup" → endsWithListener (ownedNodes t.owned) = true) :
    groupDefects (ownedNodes ts) = [] := by
  induction ts with
  | nil => rfl
  | cons t ts ih =>
    obtain ⟨ht, hts⟩ := List.forall_mem_cons.mp h
    obtain ⟨element, owned⟩ := t
    have htree : ((hashTree (ownedNodes owned)).tag == "ThreadGroup") = false := rfl
    rw [ownedNodes, TestElement.toNodes, List.cons_append, List.cons_append, List.nil_append,
      groupDefects, groupDefects, ih hts, toNode_tag, htree]
    by_cases hgroup : element.tag = "ThreadGroup"
    · have hnone :
          groupDefect element.toNode (hashTree (ownedNodes owned) :: ownedNodes ts) = [] := by
        rw [groupDefect, children_hashTree, ht hgroup]
        rfl
      simp [hnone]
    · simp [hgroup]

theorem endsWithListener_append (ts : List TestElement) {t : TestElement}
    (htag : t.element.tag = "BackendListener") :
    endsWithListener (ownedNodes (ts ++ [t])) = true := by
  obtain ⟨element, owned⟩ := t
  have hself : element.toNode.tag = "BackendListener" := (toNode_tag element).trans htag
  have hlast : (ownedNodes [⟨element, owned⟩]).filter (·.tag != "hashTree") = [element.toNode] := by
    have htree : ((hashTree (ownedNodes owned)).tag != "hashTree") = false := rfl
    simp [ownedNodes, TestElement.toNodes, List.filter, htree, hself]
  rw [endsWithListener, ownedNodes_append, List.filter_append, hlast]
  simp [hself]

/-! ## Parts of a compiled test -/

/-- The test element of a test, with its thread groups. -/
def planPart (settings : Settings) (t : Test) : TestElement :=
  ⟨(testPlan t.name (.text "")).element, t.scenarios.map fun s => (scenarioPart settings s).part⟩

/-- The listener at the end of each thread group. -/
def listenerPart (settings : Settings) : TestElement :=
  backendListener (.text listenerName) settings.listener

@[simp]
theorem compiledTest_elements (settings : Settings) (t : Test) :
    (compiledTest settings t).part.elements = [planPart settings t] := by
  simp [compiledTest, document, planPart, collect]

theorem scenarioPart_owned (settings : Settings) (s : Scenario) :
    (scenarioPart settings s).part.owned =
      s.requests.map (fun r => (requestPart r).part) ++ [listenerPart settings] := by
  simp [scenarioPart, groupOf, collect, listenerPart]

section Detail

variable {t : TestElement} (h : IsDetail t)

include h

theorem IsDetail.tag_ne {wanted : String}
    (hwanted : wanted ∉ ["HeaderManager", "ResponseAssertion", "DurationAssertion"]) :
    t.element.tag ≠ wanted := by
  rintro rfl
  cases h with
  | headers => exact hwanted (.head _)
  | regex => exact hwanted (.tail _ (.head _))
  | duration => exact hwanted (.tail _ (.tail _ (.head _)))

theorem IsDetail.owned : t.owned = [] := by
  cases h <;> rfl

/-- Among headers and assertions, those on regular expressions have test strings. -/
theorem IsDetail.hasTestStrings (htag : t.element.tag = "ResponseAssertion") :
    HasTestStrings t.element.toNode := by
  cases h with
  | headers => exact absurd (show "HeaderManager" = "ResponseAssertion" from htag) (by decide)
  | regex =>
    refine ⟨_, rfl, ?_⟩
    rw [collectionProp, children_toNode]
    simp [Element.addAll]
  | duration => exact absurd (show "DurationAssertion" = "ResponseAssertion" from htag) (by decide)

end Detail

theorem IsDetail.parts_eq {t : TestElement} (h : IsDetail t) : t.parts = [t] := by
  obtain ⟨element, owned⟩ := t
  obtain rfl := h.owned
  rfl

@[simp]
theorem partsOf_details (r : Request) : partsOf (details r) = details r := by
  rw [partsOf_eq_flatMap, List.flatMap_congr fun t ht => (details_isDetail r t ht).parts_eq]
  exact List.flatMap_singleton' _

/-- The parts of a compiled test, in order. -/
theorem partsOf_compiledTest (settings : Settings) (t : Test) :
    partsOf (compiledTest settings t).part.elements =
      planPart settings t :: t.scenarios.flatMap fun s => (scenarioPart settings s).part ::
        (s.requests.flatMap (fun r => (requestPart r).part :: details r) ++
          [listenerPart settings]) := by
  have hrequest (r : Request) : (requestPart r).part.parts = (requestPart r).part :: details r := by
    conv_rhs => rw [← partsOf_details]
    rfl
  have hscenario (s : Scenario) : (scenarioPart settings s).part.parts =
      (scenarioPart settings s).part ::
        (s.requests.flatMap (fun r => (requestPart r).part :: details r) ++
          [listenerPart settings]) := by
    have hparts : (scenarioPart settings s).part.parts =
        (scenarioPart settings s).part :: partsOf (scenarioPart settings s).part.owned := rfl
    rw [hparts, scenarioPart_owned, partsOf_eq_flatMap, List.flatMap_append, List.flatMap_map,
      List.flatMap_congr fun r _ => hrequest r]
    rfl
  have hplan : partsOf [planPart settings t] =
      planPart settings t ::
        t.scenarios.flatMap fun s => (scenarioPart settings s).part.parts := by
    rw [← List.flatMap_map (f := fun s => (scenarioPart settings s).part),
      ← partsOf_eq_flatMap]
    exact List.append_nil _
  rw [compiledTest_elements, hplan, List.flatMap_congr fun s _ => hscenario s]

/-- What holds of all parts of a compiled test. -/
theorem forall_partsOf (settings : Settings) (t : Test) {P : TestElement → Prop} :
    (∀ p ∈ partsOf (compiledTest settings t).part.elements, P p) ↔
      P (planPart settings t) ∧ ∀ s ∈ t.scenarios, P (scenarioPart settings s).part ∧
        (∀ r ∈ s.requests, P (requestPart r).part ∧ ∀ d ∈ details r, P d) ∧
          P (listenerPart settings) := by
  rw [partsOf_compiledTest, List.forall_mem_cons, List.forall_mem_flatMap]
  simp only [List.forall_mem_cons, List.forall_mem_append, List.forall_mem_flatMap,
    List.not_mem_nil, false_implies, implies_true, and_true]

/-! ## Defects of a compiled test -/

theorem payload_plain (r : Request) (get : Bool) :
    ∀ p ∈ (payload r get).part, p.tag ≠ "stringProp" := by
  have hraw (v : Value) : (rawBodyProp v).tag ≠ "stringProp" :=
    show "boolProp" ≠ "stringProp" by decide
  have harguments (kvs : List KeyValue) (v : Value) : (arguments kvs v).tag ≠ "stringProp" :=
    show "elementProp" ≠ "stringProp" by decide
  unfold payload
  split
  · simp
  · split
    · dsimp only
      split <;> simp [harguments]
    · split
      · simp
      · split <;> simp [hraw, harguments]

/-- The text properties of a compiled sampler hold nothing. -/
theorem requestPart_plain (r : Request) : ∀ c ∈ (requestPart r).part.element.toNode.children,
    c.tag = "stringProp" → c.children = [] := by
  have hbare (e : Endpoint) : ∀ p ∈ (endpointSampler r.name e).element.properties,
      p.properties = [] := by
    unfold endpointSampler
    split <;> exact List.flatMap_eq_nil_iff.mp rfl
  intro c hc htag
  rw [children_toNode] at hc
  obtain ⟨p, hp, rfl⟩ := List.mem_map.mp hc
  rw [toNode_tag] at htag
  obtain hp | hp := List.mem_append.mp hp
  · rw [children_toNode, hbare _ p hp, List.map_nil]
  · exact absurd htag (payload_plain r _ p hp)

section Compiled

variable (settings : Settings) (t : Test)

@[simp]
theorem planPart_tag : (planPart settings t).element.tag = "TestPlan" :=
  rfl

@[simp]
theorem scenarioPart_tag (s : Scenario) :
    (scenarioPart settings s).part.element.tag = "ThreadGroup" :=
  rfl

@[simp]
theorem requestPart_tag (r : Request) : (requestPart r).part.element.tag = "HTTPSamplerProxy" :=
  endpointSampler_tag _ _

@[simp]
theorem listenerPart_tag : (listenerPart settings).element.tag = "BackendListener" :=
  rfl

/-- No part of a compiled test has the tag of a tree. -/
theorem compiledTest_tags : ∀ p ∈ partsOf (compiledTest settings t).part.elements,
    p.element.tag ≠ "hashTree" := by
  have hdetail (r : Request) : ∀ d ∈ details r, d.element.tag ≠ "hashTree" :=
    fun d hd => (details_isDetail r d hd).tag_ne (by decide)
  rw [forall_partsOf]
  simpa using fun _ _ r _ => hdetail r

/-- The samplers of a compiled test are those of its requests. -/
theorem forall_samplers {P : Node → Prop} :
    (∀ n ∈ (compiledTest settings t).part.toNode.withTag "HTTPSamplerProxy", P n) ↔
      ∀ s ∈ t.scenarios, ∀ r ∈ s.requests, P (requestPart r).part.element.toNode := by
  have hdetail (r : Request) : (∀ d ∈ details r,
      d.element.tag = "HTTPSamplerProxy" → P d.element.toNode) ↔ True :=
    iff_true_intro fun d hd htag => absurd htag ((details_isDetail r d hd).tag_ne (by decide))
  rw [(compiledTest_sound settings t).withTag_eq (by decide) (by decide) (by decide)]
  simp only [List.forall_mem_map, List.mem_filter, and_imp, beq_iff_eq]
  rw [forall_partsOf]
  simp [hdetail]

theorem compiledTest_assertions :
    ∀ n ∈ (compiledTest settings t).part.toNode.withTag "ResponseAssertion", HasTestStrings n := by
  have hdetail (r : Request) : ∀ d ∈ details r,
      d.element.tag = "ResponseAssertion" → HasTestStrings d.element.toNode :=
    fun d hd => (details_isDetail r d hd).hasTestStrings
  rw [(compiledTest_sound settings t).withTag_eq (by decide) (by decide) (by decide)]
  simp only [List.forall_mem_map, List.mem_filter, and_imp, beq_iff_eq]
  rw [forall_partsOf]
  simpa using fun _ _ r _ => hdetail r

/-- The trees of a compiled test have thread groups that end with a listener, or none. -/
theorem compiledTest_groups :
    ∀ tree ∈ (compiledTest settings t).part.toNode.withTag "hashTree",
      groupDefects tree.children = [] := by
  rw [(compiledTest_sound settings t).hashTrees_eq (compiledTest_tags settings t)]
  simp only [List.forall_mem_cons, List.forall_mem_map, children_hashTree]
  rw [forall_partsOf]
  have hends (s : Scenario) : endsWithListener (ownedNodes (scenarioPart settings s).part.owned) =
      true := by
    rw [scenarioPart_owned]
    exact endsWithListener_append _ rfl
  refine ⟨groupDefects_ownedNodes ?_, groupDefects_ownedNodes ?_, fun s _ =>
    ⟨groupDefects_ownedNodes ?_, fun r _ => ⟨groupDefects_ownedNodes ?_, ?_⟩, rfl⟩⟩
  · simp
  · simp [planPart, hends]
  · rw [scenarioPart_owned, List.forall_mem_append, List.forall_mem_map]
    simp
  · exact fun d hd htag => absurd htag ((details_isDetail r d hd).tag_ne (by decide))
  · intro d hd
    rw [(details_isDetail r d hd).owned]
    rfl

theorem compiledTest_attributes : attributeDefects (compiledTest settings t).part.toNode = [] ↔
    planText settings.version ≠ "" := by
  have hattributes : (compiledTest settings t).part.attributes =
      [("version", "1.2"), ("properties", "5.0"), ("jmeter", planText settings.version)] :=
    attributesOf_eq_map areNames_document.1
  have hlookup (name : String) : (compiledTest settings t).part.toNode.attribute? name =
      (Node.element "jmeterTestPlan"
        [("version", "1.2"), ("properties", "5.0"), ("jmeter", planText settings.version)]
        []).attribute? name := by
    rw [← hattributes]
    rfl
  have hversion : (compiledTest settings t).part.toNode.attribute? "version" = some "1.2" :=
    hlookup "version"
  have hproperties : (compiledTest settings t).part.toNode.attribute? "properties" = some "5.0" :=
    hlookup "properties"
  have hjmeter : (compiledTest settings t).part.toNode.attribute? "jmeter" =
      some (planText settings.version) := hlookup "jmeter"
  rw [attributeDefects_eq_nil, hversion, hproperties, hjmeter]
  simp

@[simp]
theorem compiledTest_mainTree : mainTreeDefects (compiledTest settings t).part.toNode = [] := by
  rfl

theorem compiledTest_samplersPlain : SamplersPlain (compiledTest settings t).part.toNode :=
  (forall_samplers settings t).mpr fun _ _ r _ => requestPart_plain r

/-- A compiled test has no defects if the texts of its version and of all methods are not empty. -/
theorem compiledTest_defects : defects (compiledTest settings t).part.toNode = [] ↔
    planText settings.version ≠ "" ∧
      ∀ s ∈ t.scenarios, ∀ r ∈ s.requests, planText r.method ≠ "" := by
  have hmethod (r : Request) : HasMethodText (requestPart r).part.element.toNode ↔
      planText r.method ≠ "" := by
    rw [HasMethodText, requestPart, compiledRequest_method]
  have htag : (compiledTest settings t).part.toNode.tag = "jmeterTestPlan" := rfl
  rw [defects_eq_nil, compiledTest_attributes, forall_samplers]
  simp only [htag, compiledTest_mainTree, true_and, hmethod]
  constructor
  · rintro ⟨hversion, -, hmethods, -⟩
    exact ⟨hversion, hmethods⟩
  · rintro ⟨hversion, hmethods⟩
    exact ⟨hversion, compiledTest_groups settings t, hmethods, compiledTest_assertions settings t⟩

end Compiled

/-! ## Reviews of rendered plans -/

/-- A text with a character that can stand in a document. -/
def HasChar (v : Value) : Prop :=
  ∃ s, v = .text s ∧ ∃ c ∈ s.toList, isChar c = true

theorem planText_ne_empty (s : String) : planText (.text s) ≠ "" ↔ HasChar (.text s) := by
  have htext : planText (.text s) = String.ofList (s.toList.filter isChar) := rfl
  rw [htext, ne_eq, ← String.toList_inj, String.toList_ofList, HasChar]
  simp

/-- A method that is given and can be compared with GET is a text. -/
theorem text_of_isGet {method : Value} {get : Bool} (htruthy : method.isTruthy = true)
    (hget : isGet method = .ok get) : ∃ s, method = .text s := by
  unfold isGet at hget
  split at hget
  · exact ⟨_, rfl⟩
  · simp [htruthy] at hget

/-- Whatever is rendered is reviewed without a fault. A test built from options has no defects, with
settings from a document, if the version and all methods have a character that can be written. -/
theorem review_toXml {options : Value} {first : Int} {t : Test} {state : BuildState}
    (hbuilt : (Test.ofOptions options).outcome first = (.ok t, state))
    {data : Value} {settings : Settings} (hsettings : Settings.ofValue data = .ok settings)
    {xml : String} {notices : List Notice}
    (hxml : (toXml settings t).outcome = (.ok xml, notices)) :
    ∃ review, reviewText xml = .ok review ∧
      (review.isValid = true ↔
        HasChar settings.version ∧ ∀ s ∈ t.scenarios, ∀ r ∈ s.requests, HasChar r.method) := by
  obtain ⟨plan, hplan, hrender⟩ := exists_compile_of_toXml settings hxml
  have hresult := result_of_outcome hplan
  obtain rfl := eq_compiledTest settings hresult
  obtain ⟨written, tree, hwritten, hread, hlayout⟩ := (compiledTest_sound settings t).read_render
  obtain rfl : written = xml := Except.ok.inj (hwritten.symm.trans hrender)
  refine ⟨review tree, by rw [reviewText, hread], ?_⟩
  have hdefects := defects_of_layout (compiledTest_samplersPlain settings t) hlayout
  obtain ⟨version, hversion⟩ := Settings.version_of_ofValue hsettings
  have hmethod : ∀ s ∈ t.scenarios, ∀ r ∈ s.requests,
      (planText r.method ≠ "" ↔ HasChar r.method) := by
    intro s hs r hr
    have htruthy := (Test.built_of_outcome hbuilt s hs r hr).method
    obtain ⟨method, hmethod⟩ :=
      text_of_isGet htruthy (hasMethod_of_compile settings hresult s hs r hr)
    rw [hmethod, planText_ne_empty]
  rw [Review.isValid, review, List.isEmpty_iff, hdefects, compiledTest_defects, hversion,
    planText_ne_empty]
  exact and_congr_right fun _ => forall₂_congr fun s hs => forall₂_congr (hmethod s hs)

theorem review_toXml_sample :
    (Test.ofOptions sampleOptions).outcome 1 = (.ok sampleTest, { nextId := 4 }) ∧
      Settings.ofValue .null = .ok {} ∧
      ∃ xml notices, (toXml {} sampleTest).outcome = (.ok xml, notices) ∧
        ∃ review, reviewText xml = .ok review ∧ review.isValid = true := by
  have hmethods : ∀ s ∈ sampleTest.scenarios, ∀ r ∈ s.requests, HasMethod r := by
    simp only [sampleTest, List.forall_mem_cons, List.not_mem_nil, false_implies, implies_true,
      and_true]
    exact ⟨hasMethod_of_isGet (isGet_text "get"), hasMethod_of_isGet (isGet_text "POST")⟩
  have hcompile := outcome_eq_ok (compile_result_of_hasMethod {} hmethods)
  obtain ⟨xml, -, hrender, -⟩ := (compiledTest_sound {} sampleTest).read_render
  have hxml := toXml_outcome {} hcompile
  rw [hrender] at hxml
  have hsettings : Settings.ofValue .null = .ok {} := rfl
  have hchars : ∀ s ∈ sampleTest.scenarios, ∀ r ∈ s.requests, HasChar r.method := by
    simp only [sampleTest, List.forall_mem_cons, List.not_mem_nil, false_implies, implies_true,
      and_true]
    exact ⟨⟨_, rfl, 'g', .head _, rfl⟩, ⟨_, rfl, 'P', .head _, rfl⟩⟩
  obtain ⟨review, hreview, hvalid⟩ := review_toXml sampleTest_built hsettings hxml
  exact ⟨sampleTest_built, hsettings, xml, _, hxml, review, hreview,
    hvalid.mpr ⟨⟨_, rfl, '5', .head _, rfl⟩, hchars⟩⟩

end LoadPlan.Plan
