import LoadPlan.Proofs.Plan.ReadBack

/-!
# The wording of a plan

All strings that a plan takes from a test, by the place where they stand: names of elements and of
arguments in attributes, and headers, arguments and patterns in texts. A rendered plan is read with
the wording of its test, except that blanks in attributes become spaces and carriage returns in
texts become line feeds; so it is the wording of the test exactly if there are none.
-/

namespace LoadPlan.Plan

open Xml (Node ReadFrom readText readValue isSpace)

/-- The strings of a plan that come from a test. -/
structure Wording where
  /-- The names of tests, scenarios and requests, and the descriptions of assertions. -/
  tests : List String
  scenarios : List String
  requests : List String
  descriptions : List String
  /-- The names and values of headers, for each manager of headers. -/
  headers : List (List (String × String))
  /-- The arguments of each sampler: the name as an attribute, and name and value as texts. -/
  arguments : List (List (String × String × String))
  /-- The test strings of each assertion. -/
  patterns : List (List String)
  deriving DecidableEq, Repr

namespace Wording

/-- The wording of a tree. -/
def ofNode (root : Node) : Wording where
  tests := (root.withTag "TestPlan").map calledAs
  scenarios := (root.withTag "ThreadGroup").map calledAs
  requests := (root.withTag "HTTPSamplerProxy").map calledAs
  descriptions := (root.withTag "ResponseAssertion").map calledAs
  headers := (root.withTag "HeaderManager").map headerEntries
  arguments := (root.withTag "HTTPSamplerProxy").map fun n => (argumentItems n).map argumentWords
  patterns := (root.withTag "ResponseAssertion").map fun n =>
    (itemsOf n "Asserion.test_strings").map Node.ownText

/-- The wording of a test: its strings without the characters that a document cannot hold. -/
def ofTest (t : Test) : Wording where
  tests := [planText (nameOrTag "TestPlan" t.name)]
  scenarios := t.scenarios.map fun s => planText (nameOrTag "ThreadGroup" s.name)
  requests := t.requests.map fun r => planText (r.name.orElse (.text "HTTP Request"))
  descriptions := (t.requests.flatMap checkedRegexes).map fun a =>
    planText (nameOrTag "ResponseAssertion" a.description)
  headers := t.requests.flatMap fun r => (headerLists r).map (·.map entryTexts)
  arguments := t.requests.map fun r => (sentEntries r (usesGet r)).map sentWords
  patterns := (t.requests.flatMap checkedRegexes).map fun a => [patternText a.expression]

/-- A wording with its values and its texts changed. -/
def map (value text : String → String) (w : Wording) : Wording where
  tests := w.tests.map value
  scenarios := w.scenarios.map value
  requests := w.requests.map value
  descriptions := w.descriptions.map value
  headers := w.headers.map (·.map (Prod.map text text))
  arguments := w.arguments.map (·.map (Prod.map value (Prod.map text text)))
  patterns := w.patterns.map (·.map text)

/-- The strings that stand in attributes. -/
def values (w : Wording) : List String :=
  w.tests ++ w.scenarios ++ w.requests ++ w.descriptions ++ w.arguments.flatten.map (·.1)

/-- The strings that stand in texts. -/
def texts (w : Wording) : List String :=
  w.headers.flatten.flatMap (fun p => [p.1, p.2]) ++
    w.arguments.flatten.flatMap (fun p => [p.2.1, p.2.2]) ++ w.patterns.flatten

theorem map_eq_self_iff {α : Type} {f : α → α} (l : List α) : l.map f = l ↔ ∀ a ∈ l, f a = a := by
  induction l with
  | nil => simp
  | cons a l ih => rw [List.map_cons, List.cons.injEq, ih, List.forall_mem_cons]

theorem forall_mem_flatten {α : Type} {P : α → Prop} (ls : List (List α)) :
    (∀ a ∈ ls.flatten, P a) ↔ ∀ l ∈ ls, ∀ a ∈ l, P a := by
  rw [← List.flatMap_id, List.forall_mem_flatMap]
  rfl

/-- A change of values and texts keeps a wording if it keeps each of its strings. -/
theorem map_eq_self (value text : String → String) (w : Wording) :
    w.map value text = w ↔ (∀ s ∈ w.values, value s = s) ∧ ∀ s ∈ w.texts, text s = s := by
  obtain ⟨tests, scenarios, requests, descriptions, headers, arguments, patterns⟩ := w
  simp only [map, values, texts, mk.injEq, map_eq_self_iff, Prod.ext_iff, Prod.map_fst,
    Prod.map_snd, List.forall_mem_append, List.forall_mem_map, List.forall_mem_flatMap,
    forall_mem_flatten, List.forall_mem_cons, List.not_mem_nil, false_implies, implies_true,
    and_true, forall_and]
  -- Both sides list the same conditions, grouped by field on the left and by place on the right.
  tauto

end Wording

/-! ## Names -/

theorem nameOrTag_orElse (tag : String) (v : Value) (default : String) :
    nameOrTag tag (v.orElse (.text default)) = v.orElse (.text default) := by
  have hgiven : (v.orElse (.text default)).isNull = false := by
    unfold Value.orElse
    split
    · cases v <;> simp_all [Value.isNull, Value.isTruthy]
    · rfl
  rw [nameOrTag, hgiven]
  rfl

theorem attribute?_requestPart (r : Request) :
    (requestPart r).part.element.toNode.attribute? "testname" =
      some (planText (r.name.orElse (.text "HTTP Request"))) := by
  have hbare (e : Endpoint) : (endpointSampler r.name e).element.toNode.attribute? "testname" =
      some (planText (r.name.orElse (.text "HTTP Request"))) := by
    unfold endpointSampler
    split <;> exact (attribute?_standard _ _ _ _).trans (by rw [nameOrTag_orElse])
  rw [requestPart, compiledRequest, requestOf, attribute?_addAll]
  exact hbare _

@[simp]
theorem calledAs_requestPart (r : Request) : calledAs (requestPart r).part.element.toNode =
    planText (r.name.orElse (.text "HTTP Request")) := by
  rw [calledAs, attribute?_requestPart, Option.getD_some]

/-! ## Reading -/

section Read

variable {settings : Settings} {t : Test} {tree : Node}
  (h : ReadFrom tree (compiledTest settings t).part.toNode)

include h

theorem tests_readFrom : (tree.withTag "TestPlan").map calledAs =
    [readValue (planText (nameOrTag "TestPlan" t.name))] := by
  have hread := h.withTag "TestPlan"
  rw [withTag_testPlan] at hread
  obtain ⟨n, rest, hn, hrest, htag⟩ := List.forall₂_cons_right_iff.mp hread
  obtain rfl := List.forall₂_nil_right_iff.mp hrest
  rw [htag, List.map_singleton, calledAs_readFrom hn]
  exact congrArg (fun s => [readValue s]) (calledAs_standard _ _ _ _)

theorem scenarios_readFrom : (tree.withTag "ThreadGroup").map calledAs =
    t.scenarios.map fun s => readValue (planText (nameOrTag "ThreadGroup" s.name)) := by
  have hread := h.withTag "ThreadGroup"
  rw [withTag_threadGroup] at hread
  refine map_eq_of_forall₂ hread fun n s _ hn => ?_
  rw [calledAs_readFrom hn]
  exact congrArg readValue (calledAs_standard _ _ _ _)

theorem requests_readFrom : (tree.withTag "HTTPSamplerProxy").map calledAs =
    t.requests.map fun r => readValue (planText (r.name.orElse (.text "HTTP Request"))) := by
  have hread := h.withTag "HTTPSamplerProxy"
  rw [withTag_sampler] at hread
  refine map_eq_of_forall₂ hread fun n r _ hn => ?_
  rw [calledAs_readFrom hn, calledAs_requestPart]

theorem descriptions_readFrom : (tree.withTag "ResponseAssertion").map calledAs =
    (t.requests.flatMap checkedRegexes).map fun a =>
      readValue (planText (nameOrTag "ResponseAssertion" a.description)) := by
  have hread := h.withTag "ResponseAssertion"
  rw [withTag_responseAssertion] at hread
  refine map_eq_of_forall₂ hread fun n a _ hn => ?_
  rw [calledAs_readFrom hn]
  exact congrArg readValue (calledAs_standard _ _ _ _)

theorem headers_readFrom : (tree.withTag "HeaderManager").map headerEntries =
    t.requests.flatMap fun r => (headerLists r).map fun kvs =>
      kvs.map fun kv => (entryTexts kv).map readText readText := by
  have hread := h.withTag "HeaderManager"
  rw [withTag_headerManager] at hread
  rw [map_eq_of_forall₂ hread fun n m _ hn => headerEntries_readFrom hn, List.map_flatMap]
  simp [managersOf, Function.comp_def]

theorem arguments_readFrom (hbuilt : ∀ r ∈ t.requests, r.Built) :
    (tree.withTag "HTTPSamplerProxy").map (fun n => (argumentItems n).map argumentWords) =
      t.requests.map fun r => (sentEntries r (usesGet r)).map fun kv =>
        (sentWords kv).map readValue (Prod.map readText readText) := by
  have hread := h.withTag "HTTPSamplerProxy"
  rw [withTag_sampler] at hread
  exact map_eq_of_forall₂ hread fun n r hr hn => argumentItems_words (hbuilt r hr) hn

theorem patterns_readFrom :
    (tree.withTag "ResponseAssertion").map
        (fun n => (itemsOf n "Asserion.test_strings").map Node.ownText) =
      (t.requests.flatMap checkedRegexes).map fun a => [readText (patternText a.expression)] := by
  have hread := h.withTag "ResponseAssertion"
  rw [withTag_responseAssertion] at hread
  refine map_eq_of_forall₂ hread fun n a _ hn => ?_
  obtain ⟨item, hitems, hitem⟩ := testString_readFrom hn
  rw [hitems, List.map_singleton, ownText_testString hitem]

/-- The wording of a plan that was read is that of its test, as it is read. -/
theorem wording_readFrom (hbuilt : ∀ r ∈ t.requests, r.Built) :
    Wording.ofNode tree = (Wording.ofTest t).map readValue readText := by
  unfold Wording.ofNode Wording.ofTest Wording.map
  rw [Wording.mk.injEq]
  refine ⟨tests_readFrom h, ?_, ?_, ?_, ?_, ?_, ?_⟩
  · rw [scenarios_readFrom h, List.map_map]
    rfl
  · rw [requests_readFrom h, List.map_map]
    rfl
  · rw [descriptions_readFrom h, List.map_map]
    rfl
  · rw [headers_readFrom h]
    simp [List.map_flatMap, Function.comp_def]
  · rw [arguments_readFrom h hbuilt]
    simp [Function.comp_def]
  · rw [patterns_readFrom h]
    simp

end Read

theorem built_requests {options : Value} {first : Int} {t : Test} {state : BuildState}
    (h : (Test.ofOptions options).outcome first = (.ok t, state)) : ∀ r ∈ t.requests, r.Built := by
  intro r hr
  obtain ⟨s, hs, hr⟩ := List.mem_flatMap.mp hr
  exact Test.built_of_outcome h s hs r hr

/-- A rendered plan is read with the wording of its test, as it is read. This is the wording itself
if no name has a blank other than a space and no text has a carriage return, and only then. -/
theorem wording_toXml {options : Value} {first : Int} {t : Test} {state : BuildState}
    (hbuilt : (Test.ofOptions options).outcome first = (.ok t, state)) {settings : Settings}
    {xml : String} {notices : List Notice}
    (hxml : (toXml settings t).outcome = (.ok xml, notices)) :
    ∃ tree, Xml.read xml.toUTF8.data.toList = .ok tree ∧
      Wording.ofNode tree = (Wording.ofTest t).map readValue readText ∧
      (Wording.ofNode tree = Wording.ofTest t ↔
        (∀ s ∈ (Wording.ofTest t).values, ∀ c ∈ s.toList, c = ' ' ∨ isSpace c = false) ∧
          ∀ s ∈ (Wording.ofTest t).texts, '\r' ∉ s.toList) := by
  obtain ⟨tree, hread, htree⟩ := readFrom_of_toXml settings hxml
  have hwording := wording_readFrom htree (built_requests hbuilt)
  refine ⟨tree, hread, hwording, ?_⟩
  rw [hwording, Wording.map_eq_self]
  simp only [Xml.readValue_eq_self, Xml.readText_eq_self]

theorem wording_toXml_sample : ∃ xml notices,
    (Test.ofOptions sampleOptions).outcome 1 = (.ok sampleTest, { nextId := 4 }) ∧
      (toXml {} sampleTest).outcome = (.ok xml, notices) ∧
      ∃ tree, Xml.read xml.toUTF8.data.toList = .ok tree ∧
        Wording.ofNode tree = (Wording.ofTest sampleTest).map readValue readText ∧
        (Wording.ofNode tree = Wording.ofTest sampleTest ↔
          (∀ s ∈ (Wording.ofTest sampleTest).values, ∀ c ∈ s.toList, c = ' ' ∨ isSpace c = false) ∧
            ∀ s ∈ (Wording.ofTest sampleTest).texts, '\r' ∉ s.toList) := by
  obtain ⟨xml, hxml⟩ := toXml_of_hasMethod {} hasMethod_sampleTest
  exact ⟨xml, _, sampleTest_built, hxml, wording_toXml sampleTest_built hxml⟩

/-! ## A body with a carriage return -/

/-- Options of a request whose body has a carriage return. -/
def returnBodyOptions : Value :=
  singleOptions (.mapping
    [(.text "name", .text "R"), (.text "url", .text "http://h/a"), (.text "method", .text "POST"),
     (.text "body", .mapping [(.text "type", .text "Raw"), (.text "raw", .text "a\rb")])])

/-- The request that the options describe. -/
def returnBodyRequest : Request where
  id := .int 2
  name := .text "R"
  url := .text "http://h/a"
  method := .text "POST"
  body := some { type := .text "Raw", raw := .text "a\rb" }
  assertions := some { duration := some {} }

theorem returnBody_built : (Test.ofOptions returnBodyOptions).outcome 1 =
    (.ok (singleTest returnBodyRequest), { nextId := 3 }) :=
  rfl

/-- A carriage return in a body is read as a line feed. -/
theorem wording_not_kept : ∃ xml notices tree,
    (Test.ofOptions returnBodyOptions).outcome 1 =
        (.ok (singleTest returnBodyRequest), { nextId := 3 }) ∧
      (toXml {} (singleTest returnBodyRequest)).outcome = (.ok xml, notices) ∧
      Xml.read xml.toUTF8.data.toList = .ok tree ∧
      (Wording.ofTest (singleTest returnBodyRequest)).arguments = [[("", "", "a\rb")]] ∧
      (Wording.ofNode tree).arguments = [[("", "", "a\nb")]] := by
  have hpost : returnBodyRequest.isGet = .ok false := isGet_text "POST"
  have hget : usesGet returnBodyRequest = false := by rw [usesGet, hpost]
  obtain ⟨xml, hxml⟩ :=
    toXml_of_hasMethod {} (hasMethod_singleTest (hasMethod_of_isGet hpost))
  obtain ⟨tree, hread, htree⟩ := readFrom_of_toXml {} hxml
  have htest : (Wording.ofTest (singleTest returnBodyRequest)).arguments =
      [[("", "", "a\rb")]] := by
    change [(sentEntries returnBodyRequest (usesGet returnBodyRequest)).map sentWords] = _
    rw [hget]
    decide
  refine ⟨xml, _, tree, returnBody_built, hxml, hread, htest, ?_⟩
  rw [wording_readFrom htree (built_requests returnBody_built), Wording.map, htest]
  decide

end LoadPlan.Plan
