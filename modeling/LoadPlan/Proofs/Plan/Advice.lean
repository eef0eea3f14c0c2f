import LoadPlan.Proofs.Lint.UrlWarnings
import LoadPlan.Proofs.Number.Decimal
import LoadPlan.Proofs.Plan.Load
import LoadPlan.Proofs.Plan.Wording
import LoadPlan.Proofs.Scenario.Described
import LoadPlan.Proofs.Url.Characters

/-!
# The advice on a rendered plan

What a review advises on a rendered plan is known from the test and its number of threads alone. The
review sees the text of the plan and the check sees the test, but both find the same requests
without an address, and the other advice is given exactly if the test has no regular expressions to
check, no durations, no headers or few threads.
-/

namespace LoadPlan.Plan

open Xml (Node ReadFrom isChar isSpace readText readValue)

/-- The name of the sampler of a request, as it is read. -/
def samplerName (r : Request) : String :=
  readValue (planText (r.name.orElse (.text "HTTP Request")))

/-- The advice on samplers: one for each request with a URL that a check warns about. -/
def endpointAdvice (t : Test) : List Advice :=
  (t.requests.filter Lint.warnsOfUrl).map fun r =>
    Advice.completeEndpoint (samplerName r) Lack.domainAndPath

/-- The advice on the plan of a test with a number of threads. -/
def predictedAdvice (t : Test) (threads : Int) : List Advice :=
  let regexes := t.requests.flatMap checkedRegexes
  let durations := t.requests.flatMap checkedDurations
  endpointAdvice t ++
    (if regexes.isEmpty then [Advice.addAssertions] else []) ++
    (if !regexes.isEmpty && durations.isEmpty then [Advice.addDurations] else []) ++
    (if t.requests.any fun r => r.headers.any KeyValue.isValid then [] else [Advice.addHeaders]) ++
    (if threads < enoughThreads then [Advice.moreThreads threads] else [])

/-- A request with a text for its method, and with no URL or one that can be written as it is. -/
structure IsWritable (r : Request) : Prop where
  method : ∃ m, r.method = .text m
  url : r.url = .null ∨ ∃ u, r.url = .text u ∧ ∀ c ∈ u.toList, isChar c = true

theorem IsWritable.hasMethod {r : Request} (h : IsWritable r) : HasMethod r := by
  obtain ⟨m, hm⟩ := h.method
  have hget : r.isGet = .ok (m.toList.map Char.toUpper == "GET".toList) := by
    rw [Request.isGet, hm, isGet_text]
  exact hasMethod_of_isGet hget

/-! ## Endpoints -/

/-- A text is read as nothing only if nothing was written. -/
theorem readText_isEmpty (s : String) : (readText s).isEmpty = false ↔ s ≠ "" := by
  rw [Bool.eq_false_iff, ne_eq, String.isEmpty_iff, readText, ← String.toList_inj,
    String.toList_ofList]
  constructor
  · rintro hread rfl
    exact hread rfl
  · intro hne
    exact Xml.unifyLineEnds_ne_nil fun hnil => hne (String.toList_inj.mp hnil)

theorem property?_samplerDomain (name : Value) (e : Endpoint) :
    property? (endpointSampler name e).element.toNode "stringProp" "HTTPSampler.domain" =
      some (stringProp "HTTPSampler.domain"
        ((e.address.map fun a => .text a.hostname).getD .null)).toNode := by
  unfold endpointSampler
  cases e.address <;> rfl

theorem property?_samplerPath_of_none (name : Value) {e : Endpoint} (h : e.address = none) :
    property? (endpointSampler name e).element.toNode "stringProp" "HTTPSampler.path" =
      some (stringProp "HTTPSampler.path" .null).toNode := by
  unfold endpointSampler
  rw [h]
  rfl

section Sampler

variable {r : Request} {get : Bool} {n : Node}
  (h : ReadFrom n (compiledRequest r get).part.element.toNode)

include h

theorem domain_readFrom : propertyText n "HTTPSampler.domain" =
    readText (planText (((r.address? get).map fun a => .text a.hostname).getD .null)) := by
  apply stringProp_readFrom h (by simp [isSpace])
  rw [compiledRequest, requestOf, property?_addAll, property?_samplerDomain]
  rfl

theorem path_readFrom : propertyText n "HTTPSampler.path" =
    readText (planText (((r.address? get).map samplerPath).getD .null)) := by
  apply stringProp_readFrom h (by simp [isSpace])
  rw [compiledRequest, requestOf, property?_addAll]
  cases haddress : r.address? get with
  | none =>
    rw [property?_samplerPath_of_none r.name rfl]
    rfl
  | some a =>
    rw [property?_samplerPath r.name rfl]
    rfl

/-- A sampler lacks its whole endpoint if its request has no address, and nothing otherwise. -/
theorem lack?_readFrom (hurl : IsWritable r) :
    lack? n = if (r.address? get).isNone then some .domainAndPath else none := by
  rw [lack?, domain_readFrom h, path_readFrom h]
  cases haddress : r.address? get with
  | none => rfl
  | some a =>
    obtain ⟨url, port, habsolute, rfl⟩ := exists_absolute_of_address haddress
    obtain hnull | ⟨u, hu, hchars⟩ := hurl.url
    · simp [Request.address?, hnull, Value.isTruthy] at haddress
    · have hdisplay : r.url.display = u := by rw [hu]; rfl
      rw [hdisplay] at habsolute
      have hdomain := planText_hostname_ne_empty habsolute hchars (!get)
      have hpath := planText_samplerPath_ne_empty habsolute hchars get
      rw [← readText_isEmpty] at hdomain hpath
      rw [Option.map_some, Option.map_some, Option.getD_some, Option.getD_some, hdomain, hpath]
      rfl

end Sampler

/-! ## The parts of the advice -/

theorem isEmpty_of_forall₂ {α β : Type} {R : α → β → Prop} {as : List α} {bs : List β}
    (h : List.Forall₂ R as bs) : as.isEmpty = bs.isEmpty := by
  cases h <;> rfl

theorem flatMap_ite_eq_filter {α β : Type} (p : α → Bool) (f : α → β) (l : List α) :
    (l.flatMap fun a => if p a then [f a] else []) = (l.filter p).map f := by
  induction l with
  | nil => rfl
  | cons a l ih =>
    rw [List.flatMap_cons, ih, List.filter_cons]
    split <;> rfl

theorem durationParts_eq_map (r : Request) : durationParts r =
    (checkedDurations r).map fun d => durationAssertion (.text "Response Time") d.value := by
  unfold durationParts checkedDurations
  cases r.assertions with
  | none => rfl
  | some a =>
    rw [Option.map_some, Option.getD_some, Option.bind_some, durationOf]
    cases a.duration with
    | none => rfl
    | some d => by_cases hd : d.isValid = true <;> simp [hd, Option.filter]

theorem managersOf_isEmpty (rs : List Request) :
    (rs.flatMap managersOf).isEmpty = !rs.any fun r => r.headers.any KeyValue.isValid := by
  have hone (r : Request) : (managersOf r).isEmpty = !r.headers.any KeyValue.isValid := by
    rw [managersOf, List.isEmpty_map, headerLists, ← validOnly_isEmpty]
    cases (validOnly r.headers).isEmpty <;> rfl
  rw [List.not_any_eq_all_not, Bool.eq_iff_iff, List.isEmpty_iff, List.flatMap_eq_nil_iff,
    List.all_eq_true]
  exact forall₂_congr fun r _ => by rw [← List.isEmpty_iff, hone]

section Tree

variable {settings : Settings} {t : Test} {tree : Node}
  (h : ReadFrom tree (compiledTest settings t).part.toNode)

include h

theorem below_of_readFrom {wanted : String} (hwanted : wanted ≠ "jmeterTestPlan") :
    below tree wanted = tree.withTag wanted := by
  have htag : tree.tag = "jmeterTestPlan" := by
    rw [← Xml.dropLayout_keeps.tag, h, Xml.asRead_keeps.tag]
    rfl
  have helement : tree.isElement = true := by
    rw [← Xml.dropLayout_keeps.isElement, h, Xml.asRead_keeps.isElement]
    rfl
  have hself : (tree.tag == wanted) = false := by
    rw [htag]
    simpa using hwanted.symm
  rw [Node.withTag_eq wanted helement, hself, below, ← Node.withTagIn_filter]
  rfl

theorem samplerAdvice_readFrom (hwritable : ∀ r ∈ t.requests, IsWritable r) :
    indexed samplerAdvice (tree.withTag "HTTPSamplerProxy") = endpointAdvice t := by
  have hread := h.withTag "HTTPSamplerProxy"
  rw [withTag_sampler] at hread
  -- Every sampler has a name, so its place among the samplers is not looked at.
  have hone : ∀ n, ∀ r ∈ t.requests, ReadFrom n (requestPart r).part.element.toNode → ∀ i,
      samplerAdvice n i =
        if Lint.warnsOfUrl r then [.completeEndpoint (samplerName r) .domainAndPath] else [] := by
    intro n r hr hn i
    have hlack := lack?_readFrom hn (hwritable r hr)
    have hname : nameOf "Sampler" n i = samplerName r := by
      rw [nameOf, hn.attribute?, attribute?_requestPart]
      rfl
    rw [Lint.warnsOfUrl_eq (hwritable r hr).hasMethod, samplerAdvice, hlack, hname]
    cases (r.address? (usesGet r)).isNone <;> rfl
  have hindex : ∀ n ∈ tree.withTag "HTTPSamplerProxy", ∀ i,
      samplerAdvice n i = samplerAdvice n 0 := by
    intro n hn i
    obtain ⟨r, hr, hrelated⟩ := exists_of_forall₂ hread n hn
    rw [hone n r hr hrelated, hone n r hr hrelated]
  rw [indexed_eq_flatMap hindex, List.flatMap_def,
    map_eq_of_forall₂ hread fun n r hr hn => hone n r hr hn 0, ← List.flatMap_def,
    flatMap_ite_eq_filter, endpointAdvice]

theorem threadAdvice_readFrom (hscenarios : t.scenarios ≠ []) {threads : Int}
    (hthreads : settings.threads = .int threads)
    (hdigits : threads.natAbs < 10 ^ Number.maxDigits) :
    threadAdvice tree = if threads < enoughThreads then [.moreThreads threads] else [] := by
  have hread := h.withTag "ThreadGroup"
  obtain ⟨s, rest, hcons⟩ := List.exists_cons_of_ne_nil hscenarios
  rw [withTag_threadGroup, hcons, List.map_cons] at hread
  obtain ⟨group, groups, hgroup, -, hfound⟩ := List.forall₂_cons_right_iff.mp hread
  have htext : propertyText group "ThreadGroup.num_threads" = toString threads := by
    have hload := congrArg Load.threads (loadOf_readFrom hgroup)
    rwa [hthreads, readText_planText_int] at hload
  have hinteger := Number.integer?_toString hdigits
  have hgiven : (toString threads).isEmpty = false := by
    rw [Bool.eq_false_iff, ne_eq, String.isEmpty_iff]
    intro hempty
    rw [hempty] at hinteger
    cases hinteger
  rw [threadAdvice, below_of_readFrom h (by decide), hfound]
  dsimp only
  rw [htext, hgiven, if_neg Bool.false_ne_true, hinteger]

/-- The advice on a plan that was read is the predicted one. -/
theorem adviceOn_readFrom (hcomplete : t.IsComplete)
    (hwritable : ∀ r ∈ t.requests, IsWritable r) {threads : Int}
    (hthreads : settings.threads = .int threads)
    (hdigits : threads.natAbs < 10 ^ Number.maxDigits) :
    adviceOn tree = predictedAdvice t threads := by
  have hsamplers : (tree.withTag "HTTPSamplerProxy").isEmpty = false := by
    rw [isEmpty_of_forall₂ (h.withTag _), withTag_sampler, List.isEmpty_map,
      List.isEmpty_eq_false_iff]
    obtain ⟨s, rest, hcons⟩ := List.exists_cons_of_ne_nil hcomplete.scenarios
    have hs : s ∈ t.scenarios := hcons ▸ List.mem_cons_self
    intro hnone
    exact hcomplete.requests s hs (List.flatMap_eq_nil_iff.mp hnone s hs)
  have hregexes : (tree.withTag "ResponseAssertion").isEmpty =
      (t.requests.flatMap checkedRegexes).isEmpty := by
    rw [isEmpty_of_forall₂ (h.withTag _), withTag_responseAssertion, List.isEmpty_map]
  have hdurations : (tree.withTag "DurationAssertion").isEmpty =
      (t.requests.flatMap checkedDurations).isEmpty := by
    rw [isEmpty_of_forall₂ (h.withTag _), withTag_durationAssertion, List.isEmpty_map,
      List.flatMap_congr fun r _ => durationParts_eq_map r, ← List.map_flatMap, List.isEmpty_map]
  have hheaders : (below tree "HeaderManager").isEmpty =
      !t.requests.any fun r => r.headers.any KeyValue.isValid := by
    rw [below_of_readFrom h (by decide), isEmpty_of_forall₂ (h.withTag _), withTag_headerManager,
      List.isEmpty_map, managersOf_isEmpty]
  unfold adviceOn predictedAdvice
  dsimp only
  rw [hsamplers, hregexes, hdurations, hheaders, samplerAdvice_readFrom h hwritable,
    threadAdvice_readFrom h hcomplete.scenarios hthreads hdigits, if_neg Bool.false_ne_true,
    List.nil_append, Bool.not_false, Bool.true_and]
  congr 2
  cases t.requests.any fun r => r.headers.any KeyValue.isValid <;> rfl

end Tree

/-! ## Tests built from options -/

/-- A test that is built from options with texts for methods and URLs that can be written is
rendered with any settings of a document, and the review of its plan gives the predicted advice.
Whenever there is a report on the test, it warns about the URLs of the same requests. -/
theorem advice_toXml {options : Value} {first : Int} {t : Test} {state : BuildState}
    (hbuilt : (Test.ofOptions options).outcome first = (.ok t, state))
    (hwritable : ∀ r ∈ t.requests, IsWritable r) {data : Value} {settings : Settings}
    (hsettings : Settings.ofValue data = .ok settings)
    (hdigits : ∀ n, settings.threads = .int n → n.natAbs < 10 ^ Number.maxDigits) :
    ∃ threads xml notices review, settings.threads = .int threads ∧
      (toXml settings t).outcome = (.ok xml, notices) ∧ reviewText xml = .ok review ∧
      review.advice = predictedAdvice t threads ∧
      ∀ report written, (Lint.check t).outcome = (.ok report, written) →
        Lint.urlWarnings report = Lint.locationsOf Lint.warnsOfUrl t := by
  obtain ⟨threads, hthreads, -⟩ := (Settings.ofSection_of_ofValue hsettings).threads
  obtain ⟨o, ho⟩ := ((Test.ofOptions_describedBy options).of_run hbuilt).exists_options
  have hmethods : ∀ s ∈ t.scenarios, ∀ r ∈ s.requests, HasMethod r := fun s hs r hr =>
    (hwritable r (List.mem_flatMap.mpr ⟨s, hs, hr⟩)).hasMethod
  obtain ⟨xml, hxml⟩ := toXml_of_hasMethod settings hmethods
  obtain ⟨tree, hread, htree⟩ := readFrom_of_toXml settings hxml
  refine ⟨threads, xml, _, review tree, hthreads, hxml, by rw [reviewText, hread], ?_, ?_⟩
  · exact adviceOn_readFrom htree ho.isComplete hwritable hthreads (hdigits threads hthreads)
  · intro report written hreport
    exact Lint.urlWarnings_of_check (Test.built_of_outcome hbuilt)
      (Logged.result_of_outcome hreport)

theorem advice_toXml_sample : ∃ xml notices review,
    (Test.ofOptions sampleOptions).outcome 1 = (.ok sampleTest, { nextId := 4 }) ∧
      Settings.ofValue .null = .ok {} ∧ (toXml {} sampleTest).outcome = (.ok xml, notices) ∧
      reviewText xml = .ok review ∧ review.advice = predictedAdvice sampleTest 1 := by
  have hwritable : ∀ r ∈ sampleTest.requests, IsWritable r :=
    List.forall_mem_cons.mpr ⟨⟨⟨"get", rfl⟩, .inl rfl⟩,
      List.forall_mem_singleton.mpr ⟨⟨"POST", rfl⟩, .inl rfl⟩⟩
  have hsettings : Settings.ofValue .null = .ok {} := rfl
  have hone : ∀ n, ({} : Settings).threads = .int n → n.natAbs < 10 ^ Number.maxDigits := by
    intro n hn
    obtain rfl : (1 : Int) = n := Value.int.inj hn
    exact Nat.one_lt_pow (by decide) (by decide)
  obtain ⟨threads, xml, notices, review, hthreads, hxml, hreview, hadvice, -⟩ :=
    advice_toXml sampleTest_built hwritable hsettings hone
  obtain rfl : (1 : Int) = threads := Value.int.inj hthreads
  exact ⟨xml, notices, review, sampleTest_built, hsettings, hxml, hreview, hadvice⟩

end LoadPlan.Plan
