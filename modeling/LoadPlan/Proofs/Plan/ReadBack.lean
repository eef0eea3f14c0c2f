import LoadPlan.Proofs.Plan.Elements
import LoadPlan.Proofs.Xml.Reading

/-!
# What is read of the elements of a plan

A reader of a rendered plan finds each of its elements again: its name as an attribute, and the
texts of its properties. Names are read as values and texts as texts, so what is found in an element
is what the test has there, with spaces for blanks in names and with line feeds for line ends in
texts.
-/

namespace LoadPlan.Plan

open Xml (Node ReadFrom readText readValue isSpace)

/-! ## Rendered plans -/

section Rendered

variable (settings : Settings) {t : Test}

/-- What is rendered of a test is read from the tree of its plan. -/
theorem readFrom_of_toXml {xml : String} {notices : List Notice}
    (h : (toXml settings t).outcome = (.ok xml, notices)) :
    ∃ tree, Xml.read xml.toUTF8.data.toList = .ok tree ∧
      ReadFrom tree (compiledTest settings t).part.toNode := by
  obtain ⟨plan, hplan, hrender⟩ := exists_compile_of_toXml settings h
  obtain rfl := eq_compiledTest settings (Logged.result_of_outcome hplan)
  obtain ⟨written, tree, hwritten, hread, hlayout⟩ := (compiledTest_sound settings t).read_render
  obtain rfl : written = xml := Except.ok.inj (hwritten.symm.trans hrender)
  exact ⟨tree, hread, hlayout⟩

/-- A test whose methods can be compared with GET is rendered. -/
theorem toXml_of_hasMethod (h : ∀ s ∈ t.scenarios, ∀ r ∈ s.requests, HasMethod r) :
    ∃ xml, (toXml settings t).outcome = (.ok xml, (compile settings t).outcome.2) := by
  have hcompile := Logged.outcome_eq_ok (compile_result_of_hasMethod settings h)
  obtain ⟨xml, -, hrender, -⟩ := (compiledTest_sound settings t).read_render
  refine ⟨xml, ?_⟩
  rw [toXml_outcome settings hcompile, hrender]

end Rendered

/-! ## Elements in rows -/

/-- What is found in elements that were read one by one is found in all of them. -/
theorem map_eq_of_forall₂ {α β : Type} {R : Node → Node → Prop} {f : Node → β} {g : α → β}
    {element : α → Node} {read : List Node} {as : List α} (h : List.Forall₂ R read (as.map element))
    (heach : ∀ n, ∀ a ∈ as, R n (element a) → f n = g a) : read.map f = as.map g := by
  induction as generalizing read with
  | nil =>
    cases h
    rfl
  | cons a as ih =>
    cases h with
    | cons hhead hrest =>
      rw [List.map_cons, List.map_cons, heach _ a List.mem_cons_self hhead,
        ih hrest fun n b hb => heach n b (List.mem_cons_of_mem a hb)]

/-- Each of the elements that were read is one that was written. -/
theorem exists_of_forall₂ {α : Type} {R : Node → Node → Prop} {element : α → Node}
    {read : List Node} {as : List α} (h : List.Forall₂ R read (as.map element)) :
    ∀ n ∈ read, ∃ a ∈ as, R n (element a) := by
  induction as generalizing read with
  | nil =>
    cases h
    exact fun _ hn => nomatch hn
  | cons a as ih =>
    cases h with
    | cons hhead hrest =>
      refine List.forall_mem_cons.mpr ⟨⟨a, List.mem_cons_self, hhead⟩, fun n hn => ?_⟩
      obtain ⟨b, hb, hrelated⟩ := ih hrest n hn
      exact ⟨b, List.mem_cons_of_mem a hb, hrelated⟩

section Lookup

variable {read written : Node} (h : ReadFrom read written)

include h

theorem property?_readFrom (tag : String) {name : String}
    (hname : ∀ c ∈ name.toList, isSpace c = false) :
    (property? read tag name).map Node.dropLayout = (property? written tag name).map Node.asRead := by
  rw [← property?_keeps Xml.dropLayout_keeps read tag hname, h,
    property?_keeps Xml.asRead_keeps written tag hname]

/-- A property that was written is found. -/
theorem exists_property? {tag name : String} (hname : ∀ c ∈ name.toList, isSpace c = false)
    {p : Node} (hwritten : property? written tag name = some p) :
    ∃ q, property? read tag name = some q ∧ ReadFrom q p := by
  have hmap := property?_readFrom h tag hname
  rw [hwritten, Option.map_some, Option.map_eq_some_iff] at hmap
  exact hmap

theorem property?_eq_none {tag name : String} (hname : ∀ c ∈ name.toList, isSpace c = false)
    (hwritten : property? written tag name = none) : property? read tag name = none := by
  have hmap := property?_readFrom h tag hname
  rw [hwritten, Option.map_none, Option.map_eq_none_iff] at hmap
  exact hmap

theorem itemsOf_readFrom {collection : String} (hname : ∀ c ∈ collection.toList, isSpace c = false) :
    List.Forall₂ ReadFrom (itemsOf read collection) (itemsOf written collection) := by
  unfold itemsOf
  cases hwritten : property? written "collectionProp" collection with
  | none =>
    rw [property?_eq_none h hname hwritten]
    exact .nil
  | some p =>
    obtain ⟨q, hq, hread⟩ := exists_property? h hname hwritten
    rw [hq]
    exact hread.children

end Lookup

/-! ## Texts of properties -/

/-- An element whose properties hold no others. -/
def Element.IsFlat (e : Element) : Prop :=
  ∀ p ∈ e.properties, p.properties = []

theorem isLeaf_of_bare {e : Element} (h : e.properties = []) : e.toNode.IsLeaf := by
  obtain ⟨tag, attributes, text, properties⟩ := e
  obtain rfl : properties = [] := h
  have hcontent : (Element.toNode ⟨tag, attributes, text, []⟩).content = textContent text :=
    List.append_nil _
  rw [Node.IsLeaf, hcontent]
  fun_cases textContent text with
  | case1 => exact .inl rfl
  | case2 s hs => exact .inl rfl
  | case3 s hs => exact .inr ⟨s, rfl⟩

theorem property_isLeaf (tag : String) (name value : Value) : (property tag name value).toNode.IsLeaf :=
  isLeaf_of_bare rfl

/-- The text of a property of a flat element is the written one, as it is read. -/
theorem propertyText_readFrom {n : Node} {e : Element} (h : ReadFrom n e.toNode) (hflat : e.IsFlat)
    {name : String} (hname : ∀ c ∈ name.toList, isSpace c = false) :
    propertyText n name = readText (propertyText e.toNode name) := by
  unfold propertyText
  cases hwritten : property? e.toNode "stringProp" name with
  | none =>
    rw [property?_eq_none h hname hwritten]
    rfl
  | some p =>
    obtain ⟨q, hq, hread⟩ := exists_property? h hname hwritten
    have hmem : p ∈ e.properties.map Element.toNode :=
      children_toNode e ▸ List.mem_of_find?_eq_some hwritten
    obtain ⟨property, hproperty, rfl⟩ := List.mem_map.mp hmem
    rw [hq]
    exact hread.ownText (isLeaf_of_bare (hflat property hproperty))

theorem pairOf_readFrom {n : Node} {e : Element} (h : ReadFrom n e.toNode) (hflat : e.IsFlat)
    {first second : String} (hfirst : ∀ c ∈ first.toList, isSpace c = false)
    (hsecond : ∀ c ∈ second.toList, isSpace c = false) :
    pairOf first second n = (pairOf first second e.toNode).map readText readText := by
  rw [pairOf, propertyText_readFrom h hflat hfirst, propertyText_readFrom h hflat hsecond]
  rfl

/-! ## Names of elements -/

/-- The name of an element. -/
def calledAs (n : Node) : String :=
  (n.attribute? "testname").getD ""

/-- The name that an element is given, or the one it has without. -/
def nameOrTag (tag : String) (name : Value) : Value :=
  if name.isNull then .text (tag ++ " Name") else name

@[simp]
theorem attribute?_addAll (e : Element) (properties : List Element) (name : String) :
    (e.addAll properties).toNode.attribute? name = e.toNode.attribute? name := by
  obtain ⟨tag, attributes, text, inside⟩ := e
  rfl

theorem attribute?_standard (tag gui : String) (name : Value) (properties : List Element) :
    (standard tag gui name properties).element.toNode.attribute? "testname" =
      some (planText (nameOrTag tag name)) := by
  unfold standard
  rw [attribute?_addAll]
  unfold Element.make Element.toNode
  rw [Node.attribute?, Node.attributes, attributesOf_eq_map]
  · rfl
  · exact areNames_test.1

@[simp]
theorem calledAs_standard (tag gui : String) (name : Value) (properties : List Element) :
    calledAs (standard tag gui name properties).element.toNode = planText (nameOrTag tag name) := by
  rw [calledAs, attribute?_standard, Option.getD_some]

theorem calledAs_readFrom {n written : Node} (h : ReadFrom n written) :
    calledAs n = readValue (calledAs written) := by
  rw [calledAs, calledAs, h.attribute?]
  cases written.attribute? "testname" <;> rfl

/-! ## Headers -/

theorem header_isFlat (kv : KeyValue) : (header kv).IsFlat := by
  intro p hp
  simp only [header, elementProp, Element.addAll, Element.make, List.nil_append, List.mem_cons,
    List.not_mem_nil, or_false] at hp
  rcases hp with rfl | rfl <;> rfl

/-- The names and values of the headers of a manager. -/
def headerEntries (manager : Node) : List (String × String) :=
  (itemsOf manager "HeaderManager.headers").map (pairOf "Header.name" "Header.value")

/-- The headers of a manager as they are read. -/
theorem headerEntries_readFrom {n : Node} {name : Value} {headers : List KeyValue}
    (h : ReadFrom n (headerManager name headers).element.toNode) :
    headerEntries n = headers.map fun kv => (entryTexts kv).map readText readText := by
  have hitems : itemsOf (headerManager name headers).element.toNode "HeaderManager.headers" =
      headers.map fun kv => (header kv).toNode := by
    rw [itemsOf_of_collection (headers.map header) rfl, List.map_map]
    rfl
  have hread : List.Forall₂ ReadFrom (itemsOf n "HeaderManager.headers") _ :=
    itemsOf_readFrom h (by simp [isSpace])
  rw [hitems] at hread
  refine map_eq_of_forall₂ hread fun item kv _ hitem => ?_
  rw [pairOf_readFrom hitem (header_isFlat kv) (by simp [isSpace]) (by simp [isSpace]),
    pairOf_header]

/-! ## Arguments -/

theorem argument_isFlat (alwaysEncode : Value) (kv : KeyValue) :
    (argument alwaysEncode kv).IsFlat := by
  intro p hp
  simp only [argument, Element.addAll, Element.make, List.nil_append, List.mem_append,
    List.mem_cons, List.not_mem_nil, or_false] at hp
  obtain ((rfl | rfl) | hp) | (rfl | rfl) := hp
  · rfl
  · rfl
  · split at hp
    · obtain rfl := List.mem_singleton.mp hp
      rfl
    · cases hp
  · rfl
  · rfl

/-- The name of an argument as an attribute, with its name and its value as texts. -/
def argumentWords (n : Node) : String × String × String :=
  ((n.attribute? "name").getD "", pairOf "Argument.name" "Argument.value" n)

/-- The words of the argument that an entry is sent as. -/
def sentWords (kv : KeyValue) : String × String × String :=
  (planText (kv.name.orElse (.text "")), argumentEntry kv)

theorem argumentWords_argument (alwaysEncode : Value) (kv : KeyValue) :
    argumentWords (argument alwaysEncode kv).toNode = sentWords kv := by
  have hname : (argument alwaysEncode kv).toNode.attribute? "name" =
      some (planText (kv.name.orElse (.text ""))) := by
    unfold argument
    dsimp only
    rw [attribute?_addAll]
    unfold Element.make Element.toNode
    rw [Node.attribute?, Node.attributes, attributesOf_eq_map]
    · rfl
    · exact areNames_argument.1
  rw [argumentWords, hname, pairOf_argument]
  rfl

theorem argumentWords_readFrom {n : Node} {alwaysEncode : Value} {kv : KeyValue}
    (h : ReadFrom n (argument alwaysEncode kv).toNode) :
    argumentWords n = (sentWords kv).map readValue (Prod.map readText readText) := by
  rw [← argumentWords_argument alwaysEncode, argumentWords, argumentWords, h.attribute?,
    pairOf_readFrom h (argument_isFlat alwaysEncode kv) (by simp [isSpace]) (by simp [isSpace])]
  cases (argument alwaysEncode kv).toNode.attribute? "name" <;> rfl

/-- The arguments of the sampler of a request are those of the entries that it sends. -/
theorem argumentItems_compiledRequest {r : Request} (hbuilt : r.Built) (get : Bool) :
    ∃ alwaysEncode, argumentItems (compiledRequest r get).part.element.toNode =
      (sentEntries r get).map fun kv => (argument alwaysEncode kv).toNode := by
  rw [compiledRequest, requestOf]
  cases get with
  | true =>
    refine ⟨.bool true, ?_⟩
    rw [payload_of_get hbuilt]
    by_cases hany : r.parameters.any KeyValue.isValid = true
    · rw [if_pos hany]
      exact argumentItems_of_arguments (argumentsOf?_arguments _ _ _ _)
    · have hnone : validOnly r.parameters = [] := by
        rw [← List.isEmpty_iff, validOnly_isEmpty]
        simp [hany]
      rw [if_neg hany, argumentItems, argumentsOf?_addAll, sentEntries, if_pos rfl, hnone]
      rfl
  | false =>
    obtain ⟨raw, alwaysEncode, hpart⟩ := payload_of_not_get hbuilt
    refine ⟨alwaysEncode, ?_⟩
    rw [hpart]
    exact argumentItems_of_arguments (argumentsOf?_body _ _ _ _ _)

theorem argumentItems_readFrom {read written : Node} (h : ReadFrom read written) :
    List.Forall₂ ReadFrom (argumentItems read) (argumentItems written) := by
  unfold argumentItems argumentsOf?
  cases hwritten : property? written "elementProp" "HTTPsampler.Arguments" with
  | none =>
    rw [property?_eq_none h (by simp [isSpace]) hwritten]
    exact .nil
  | some p =>
    obtain ⟨q, hq, hread⟩ := exists_property? h (by simp [isSpace]) hwritten
    rw [hq]
    exact itemsOf_readFrom hread (by simp [isSpace])

/-- The arguments of a sampler as they are read. -/
theorem argumentItems_words {n : Node} {r : Request} (hbuilt : r.Built)
    (h : ReadFrom n (requestPart r).part.element.toNode) :
    (argumentItems n).map argumentWords =
      (sentEntries r (usesGet r)).map fun kv =>
        (sentWords kv).map readValue (Prod.map readText readText) := by
  obtain ⟨alwaysEncode, hitems⟩ := argumentItems_compiledRequest hbuilt (usesGet r)
  have hread := argumentItems_readFrom h
  rw [requestPart, hitems] at hread
  exact map_eq_of_forall₂ hread fun item kv _ hitem => argumentWords_readFrom hitem

/-! ## Test strings -/

/-- The test string of an assertion on a regular expression. -/
def testString (a : RegexAssertion) : Element :=
  property "stringProp" (.int (Text.hash (patternText a.expression)))
    (.text (patternText a.expression))

@[simp]
theorem itemsOf_regexElement (a : RegexAssertion) :
    itemsOf (regexElement a).element.toNode "Asserion.test_strings" = [(testString a).toNode] :=
  itemsOf_of_collection [testString a] rfl

/-- An assertion that was read has one test string. -/
theorem testString_readFrom {n : Node} {a : RegexAssertion}
    (h : ReadFrom n (regexElement a).element.toNode) :
    ∃ item, itemsOf n "Asserion.test_strings" = [item] ∧ ReadFrom item (testString a).toNode := by
  have hread : List.Forall₂ ReadFrom (itemsOf n "Asserion.test_strings") _ :=
    itemsOf_readFrom h (by simp [isSpace])
  rw [itemsOf_regexElement] at hread
  obtain ⟨item, rest, hitem, hrest, hitems⟩ := List.forall₂_cons_right_iff.mp hread
  rw [List.forall₂_nil_right_iff] at hrest
  subst hrest
  exact ⟨item, hitems, hitem⟩

theorem ownText_testString {item : Node} {a : RegexAssertion}
    (h : ReadFrom item (testString a).toNode) :
    item.ownText = readText (patternText a.expression) := by
  rw [h.ownText (property_isLeaf _ _ _), testString, ownText_property, planText_patternText]

/-! ## Tests that are rendered -/

theorem hasMethod_sampleTest : ∀ s ∈ sampleTest.scenarios, ∀ r ∈ s.requests, HasMethod r := by
  simp only [sampleTest, List.forall_mem_cons, List.not_mem_nil, false_implies, implies_true,
    and_true]
  exact ⟨hasMethod_of_isGet (isGet_text "get"), hasMethod_of_isGet (isGet_text "POST")⟩

/-- Options of a test with one request. -/
def singleOptions (request : Value) : Value :=
  .mapping
    [(.text "name", .text "T"),
     (.text "scenarioDefinition", .list
       [.mapping [(.text "name", .text "S"), (.text "requests", .list [request])]])]

/-- A test with one request. -/
def singleTest (r : Request) : Test where
  name := .text "T"
  scenarios := [{ id := .int 1, name := .text "S", requests := [r] }]

theorem hasMethod_singleTest {r : Request} (h : HasMethod r) :
    ∀ s ∈ (singleTest r).scenarios, ∀ r' ∈ s.requests, HasMethod r' := by
  simpa [singleTest] using h

end LoadPlan.Plan
