import LoadPlan.Proofs.Plan.Review

/-!
# The elements of a plan by their tags

The tree of a compiled test has one element for the test, one for each scenario, one for each
request, one for the headers of a request that has valid ones, and one for each assertion on a
regular expression or on the duration. Found by their tags they are listed here, in the order of the
test.
-/

namespace LoadPlan

/-- The requests of a test, in the order of its scenarios. -/
def Test.requests (t : Test) : List Request :=
  t.scenarios.flatMap (·.requests)

namespace Plan

open Xml (Node)

/-- The name of the headers of a request. -/
def headersName (r : Request) : Value :=
  .text (Text.trimLeft ((if r.name.isTruthy then r.name.display else "") ++ " Headers"))

/-- The managers of headers that a request needs, each as its name and its headers. -/
def managersOf (r : Request) : List (Value × List KeyValue) :=
  (headerLists r).map fun kvs => (headersName r, kvs)

/-- The assertions on the duration that a request needs. -/
def durationParts (r : Request) : List TestElement :=
  (r.assertions.map fun a => (durationOf a).part).getD []

/-- The assertion on a regular expression that looks at a known part of the response. -/
def regexElement (a : RegexAssertion) : TestElement :=
  responseAssertion (((Subject.ofValue? a.subject).map fieldOf).getD "") a.description matchType
    a.expression .null

/-! ## Details of a request -/

theorem headersOf_eq_map (r : Request) :
    (headersOf r).part = (managersOf r).map fun m => headerManager m.1 m.2 := by
  unfold headersOf managersOf headerLists
  dsimp only
  split <;> rfl

theorem regexPart?_eq (a : RegexAssertion) :
    regexPart? a =
      if a.isValid && (Subject.ofValue? a.subject).isSome then some (regexElement a) else none := by
  unfold regexPart? checkedSubject? regexElement
  cases a.isValid with
  | false => rfl
  | true => cases Subject.ofValue? a.subject <;> rfl

/-- The assertions on regular expressions are those on the checked ones. -/
theorem filterMap_regexPart? (as : List RegexAssertion) :
    as.filterMap regexPart? =
      (as.filter fun a => a.isValid && (Subject.ofValue? a.subject).isSome).map regexElement := by
  induction as with
  | nil => rfl
  | cons a as ih =>
    by_cases hchecked : (a.isValid && (Subject.ofValue? a.subject).isSome) = true
    · have hsome : regexPart? a = some (regexElement a) := by rw [regexPart?_eq, if_pos hchecked]
      rw [List.filterMap_cons_some hsome, List.filter_cons, if_pos hchecked, List.map_cons, ih]
    · have hnone : regexPart? a = none := by rw [regexPart?_eq, if_neg hchecked]
      rw [List.filterMap_cons_none hnone, List.filter_cons, if_neg hchecked, ih]

theorem durationOf_tag (a : Assertions) :
    ∀ d ∈ (durationOf a).part, d.element.tag = "DurationAssertion" := by
  intro d hd
  unfold durationOf at hd
  split at hd
  · split at hd
    · obtain rfl := List.mem_singleton.mp hd
      rfl
    · cases hd
  · cases hd

theorem durationParts_tag (r : Request) :
    ∀ d ∈ durationParts r, d.element.tag = "DurationAssertion" := by
  unfold durationParts
  cases r.assertions with
  | none => exact fun _ hd => nomatch hd
  | some a => exact durationOf_tag a

theorem assertionParts_eq (r : Request) :
    (assertionParts r).part = (checkedRegexes r).map regexElement ++ durationParts r := by
  unfold assertionParts checkedRegexes durationParts
  cases r.assertions with
  | none => rfl
  | some a =>
    dsimp only
    rw [regexParts, filterMap_regexPart?]
    rfl

theorem headersOf_tag (r : Request) : ∀ d ∈ (headersOf r).part, d.element.tag = "HeaderManager" := by
  intro d hd
  rw [headersOf_eq_map] at hd
  obtain ⟨m, -, rfl⟩ := List.mem_map.mp hd
  rfl

theorem regexElement_tag (as : List RegexAssertion) :
    ∀ d ∈ as.map regexElement, d.element.tag = "ResponseAssertion" := by
  intro d hd
  obtain ⟨a, -, rfl⟩ := List.mem_map.mp hd
  rfl

section Filter

variable {ts : List TestElement} {tag wanted : String} (h : ∀ t ∈ ts, t.element.tag = tag)

include h

theorem filter_same_tag : ts.filter (·.element.tag == tag) = ts := by
  rw [List.filter_eq_self]
  intro t ht
  simp [h t ht]

theorem filter_other_tag (hne : tag ≠ wanted) : ts.filter (·.element.tag == wanted) = [] := by
  rw [List.filter_eq_nil_iff]
  intro t ht
  simpa [h t ht] using hne

end Filter

@[simp]
theorem details_headers (r : Request) :
    (details r).filter (·.element.tag == "HeaderManager") = (headersOf r).part := by
  rw [details, assertionParts_eq, List.filter_append, List.filter_append,
    filter_same_tag (headersOf_tag r), filter_other_tag (regexElement_tag _) (by decide),
    filter_other_tag (durationParts_tag r) (by decide), List.append_nil, List.append_nil]

@[simp]
theorem details_regexes (r : Request) :
    (details r).filter (·.element.tag == "ResponseAssertion") =
      (checkedRegexes r).map regexElement := by
  rw [details, assertionParts_eq, List.filter_append, List.filter_append,
    filter_other_tag (headersOf_tag r) (by decide), filter_same_tag (regexElement_tag _),
    filter_other_tag (durationParts_tag r) (by decide), List.nil_append, List.append_nil]

@[simp]
theorem details_durations (r : Request) :
    (details r).filter (·.element.tag == "DurationAssertion") = durationParts r := by
  rw [details, assertionParts_eq, List.filter_append, List.filter_append,
    filter_other_tag (headersOf_tag r) (by decide),
    filter_other_tag (regexElement_tag _) (by decide), filter_same_tag (durationParts_tag r),
    List.nil_append, List.nil_append]

theorem details_other (r : Request) {wanted : String}
    (hwanted : wanted ∉ ["HeaderManager", "ResponseAssertion", "DurationAssertion"]) :
    (details r).filter (·.element.tag == wanted) = [] := by
  rw [List.filter_eq_nil_iff]
  intro d hd
  simpa using (details_isDetail r d hd).tag_ne hwanted

/-! ## Elements of a compiled test -/

section Compiled

variable (settings : Settings) (t : Test)

/-- The elements with a tag, one part after another. -/
theorem compiledTest_withTag {wanted : String} (hwanted : wanted ∉ propertyTags)
    (htree : wanted ≠ "hashTree") (hroot : wanted ≠ "jmeterTestPlan") :
    (compiledTest settings t).part.toNode.withTag wanted =
      (([planPart settings t].filter (·.element.tag == wanted)) ++
        t.scenarios.flatMap fun s =>
          ([(scenarioPart settings s).part].filter (·.element.tag == wanted)) ++
            (s.requests.flatMap fun r =>
              ([(requestPart r).part].filter (·.element.tag == wanted)) ++
                (details r).filter (·.element.tag == wanted)) ++
            [listenerPart settings].filter (·.element.tag == wanted)).map (·.element.toNode) := by
  rw [(compiledTest_sound settings t).withTag_eq hwanted htree hroot, partsOf_compiledTest]
  congr 1
  rw [← List.singleton_append, List.filter_append, List.filter_flatMap]
  congr 2
  funext s
  rw [← List.singleton_append, List.filter_append, List.filter_append, List.filter_flatMap,
    List.append_assoc]
  congr 3
  funext r
  rw [← List.singleton_append, List.filter_append]

@[simp]
theorem withTag_testPlan : (compiledTest settings t).part.toNode.withTag "TestPlan" =
    [(planPart settings t).element.toNode] := by
  have hdetails (r : Request) : (details r).filter (·.element.tag == "TestPlan") = [] :=
    details_other r (by decide)
  rw [compiledTest_withTag settings t (by decide) (by decide) (by decide)]
  simp [hdetails]

@[simp]
theorem withTag_threadGroup : (compiledTest settings t).part.toNode.withTag "ThreadGroup" =
    t.scenarios.map fun s => (scenarioPart settings s).part.element.toNode := by
  have hdetails (r : Request) : (details r).filter (·.element.tag == "ThreadGroup") = [] :=
    details_other r (by decide)
  have hrequests (s : Scenario) : (s.requests.flatMap fun _ => ([] : List TestElement)) = [] :=
    List.flatMap_eq_nil_iff.mpr fun _ _ => rfl
  rw [compiledTest_withTag settings t (by decide) (by decide) (by decide)]
  simp [hdetails, hrequests, List.map_eq_flatMap, List.flatMap_assoc]

@[simp]
theorem withTag_sampler : (compiledTest settings t).part.toNode.withTag "HTTPSamplerProxy" =
    t.requests.map fun r => (requestPart r).part.element.toNode := by
  have hdetails (r : Request) : (details r).filter (·.element.tag == "HTTPSamplerProxy") = [] :=
    details_other r (by decide)
  rw [compiledTest_withTag settings t (by decide) (by decide) (by decide)]
  simp [hdetails, List.map_eq_flatMap, Test.requests, List.flatMap_assoc]

@[simp]
theorem withTag_headerManager :
    (compiledTest settings t).part.toNode.withTag "HeaderManager" =
      (t.requests.flatMap managersOf).map fun m => (headerManager m.1 m.2).element.toNode := by
  rw [compiledTest_withTag settings t (by decide) (by decide) (by decide)]
  simp [headersOf_eq_map, List.map_flatMap, Test.requests, List.flatMap_assoc, Function.comp_def]

@[simp]
theorem withTag_responseAssertion :
    (compiledTest settings t).part.toNode.withTag "ResponseAssertion" =
      (t.requests.flatMap checkedRegexes).map fun a => (regexElement a).element.toNode := by
  rw [compiledTest_withTag settings t (by decide) (by decide) (by decide)]
  simp [List.map_flatMap, Test.requests, List.flatMap_assoc, Function.comp_def]

@[simp]
theorem withTag_durationAssertion :
    (compiledTest settings t).part.toNode.withTag "DurationAssertion" =
      (t.requests.flatMap durationParts).map (·.element.toNode) := by
  rw [compiledTest_withTag settings t (by decide) (by decide) (by decide)]
  simp [List.map_flatMap, Test.requests, List.flatMap_assoc]

end Compiled

end Plan

end LoadPlan
