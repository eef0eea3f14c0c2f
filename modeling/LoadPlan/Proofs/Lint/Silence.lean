import LoadPlan.Proofs.Lint.Agreement
import LoadPlan.Proofs.Plan.ReadBack
import LoadPlan.Proofs.Plan.SamplerPath

/-!
# What a check without findings tells

If a check of a test finds nothing, then its requests are compiled with all their headers and
assertions, a GET with all its parameters and another request with its whole body, and no URL of
a request other than GET has a query. The check tells nothing about what neither it nor the compiler
looks at: the headers and parameters of scenarios, the bodies of GET requests and the queries of
their URLs.
-/

namespace LoadPlan

namespace Lint

open Address (pathOf)
open Logged
open Plan (IsSampler IsRegexAssertion Pairs argumentEntry argumentTexts compiledRequest compiledTest
  decodeEntities entryTexts hashTree propertyText)
open Xml (Node)

/-! ## Requests in which nothing is found -/

theorem urlFindings_of_silent {r : Request} (h : (requestFindings r).result = .ok []) :
    (urlFindings r).result = .ok [] := by
  obtain ⟨url, payload, assertions, hurl, -, -, hall⟩ := exists_of_requestFindings h
  simp only [List.nil_eq, List.append_eq_nil_iff] at hall
  rw [hurl, hall.1.1.1]

/-- What is found about the URL of a request, once it is known whether it is a GET. -/
def urlFindingsOf (r : Request) (get : Bool) : List Finding :=
  if !r.url.isTruthy then [.noUrl]
  else if (r.address? get).isNone then [.malformedUrl r.url]
  else if !get && r.url.display.toList.contains '?' then [.queryAppended r.method]
  else []

theorem urlFindings_result {r : Request} {get : Bool} (hget : r.isGet = .ok get) :
    (urlFindings r).result = .ok (urlFindingsOf r get) := by
  unfold urlFindings urlFindingsOf
  by_cases htruthy : r.url.isTruthy = true
  · rw [if_neg (by simp [htruthy]), if_neg (by simp [htruthy]),
      result_bind_of_ok (addressFindings_adds r) (Endpoint.ofRequest_result hget)]
    cases haddress : r.address? get with
    | none => rfl
    | some a =>
      rw [if_neg (by simp [Endpoint.isEmpty]), if_neg (by simp),
        result_bind_of_ok (fun _ => Adds.pure _) ((result_lift _).trans hget)]
      rfl
  · rw [if_pos (by simp [htruthy]), if_pos (by simp [htruthy])]
    rfl

/-- If nothing is found about a URL, it is absolute, and only that of a GET has a question mark. -/
theorem absolute_of_silent {r : Request} {get : Bool} (h : urlFindingsOf r get = []) :
    ∃ url port, Url.absolute r.url.display = .ok (url, port) ∧
      r.address? get = some (.ofUrl url port (!get)) ∧
      (get = false → '?' ∉ r.url.display.toList) := by
  unfold urlFindingsOf at h
  split at h
  · cases h
  · split at h
    · cases h
    · rename_i hgiven
      obtain ⟨a, ha⟩ := Option.ne_none_iff_exists'.mp (by simpa using hgiven)
      obtain ⟨url, port, habsolute, rfl⟩ := Plan.exists_absolute_of_address ha
      refine ⟨url, port, habsolute, ha, ?_⟩
      rintro rfl hmark
      rw [if_pos (by simpa using hmark)] at h
      cases h

/-- Nothing is left out of entries that are not reported. -/
@[simp]
theorem unreported_none {α : Type} (as : List α) : unreported (fun _ => false) as = as :=
  (unreported_eq_filter (p := fun _ => true) fun _ _ => rfl).trans (List.filter_true as)

/-- A sampler that sends all that its request has to send, behind a path without a query. -/
structure Complete (r : Request) (item : Node) (owned : List Node) : Prop where
  headers : headerTexts owned = r.headers.map entryTexts
  parameters : r.isGet = .ok true → argumentTexts item = r.parameters.map argumentEntry
  unsent : r.isGet = .ok false → r.parameters = []
  entries : r.isGet = .ok false → ∀ body, r.body = some body → body.isKeyValue = true →
    body.kvs ≠ [] ∧ argumentTexts item = body.kvs.map argumentEntry
  raw : r.isGet = .ok false → ∀ body, r.body = some body → body.isKeyValue = false →
    body.raw.isTruthy = true ∧ argumentTexts item = [argumentEntry ⟨.text "", body.raw⟩]
  regexes : ∀ a, r.assertions = some a → List.Forall₂ (IsRegexAssertion · · []) a.regex
    (owned.filter (·.tag == "ResponseAssertion"))
  path : ∃ url, Url.ofChars r.url.display.toList = .ok url ∧
    propertyText item "HTTPSampler.path" =
      String.ofList ((decodeEntities (pathOf url)).filter Xml.isChar) ∧
    (r.isGet = .ok false → url.query = [])

theorem propertyText_path {r : Request} {get : Bool} {a : Address} (h : r.address? get = some a) :
    propertyText (compiledRequest r get).part.element.toNode "HTTPSampler.path" =
      Plan.planText (Plan.samplerPath a) := by
  apply Plan.propertyText_of_stringProp
  rw [compiledRequest, Plan.requestOf, Plan.property?_addAll, Plan.property?_samplerPath r.name h]
  rfl

section Silent

variable {r : Request} {get : Bool} (hget : r.isGet = .ok get)
  (h : (requestFindings r).result = .ok [])

include hget h

/-- A request in which nothing is found is sent to the path of its URL. -/
theorem path_of_silent : ∃ url, Url.ofChars r.url.display.toList = .ok url ∧
    propertyText (compiledRequest r get).part.element.toNode "HTTPSampler.path" =
      String.ofList ((decodeEntities (pathOf url)).filter Xml.isChar) ∧
    (r.isGet = .ok false → url.query = []) := by
  have hurl : urlFindingsOf r get = [] :=
    Except.ok.inj ((urlFindings_result hget).symm.trans (urlFindings_of_silent h))
  obtain ⟨url, port, habsolute, haddress, hmark⟩ := absolute_of_silent hurl
  have hsplit := Plan.absolute_eq_ok habsolute
  have hquery : r.isGet = .ok false → url.query = [] := by
    intro hno
    obtain rfl := Except.ok.inj (hget.symm.trans hno)
    exact Url.query_of_not_mem hsplit (hmark rfl)
  have hnone : Plan.appendedQuery url get = [] := by
    cases get with
    | true => rfl
    | false => rw [Plan.appendedQuery, hquery hget]; rfl
  refine ⟨url, hsplit, ?_, hquery⟩
  rw [propertyText_path haddress, Plan.planText_samplerPath, Address.ofUrl, String.toList_ofList,
    Plan.decodeEntities_pathText, hnone, List.append_nil]

/-- A request in which nothing is found is compiled with all that it sends. -/
theorem complete_of_silent (hbuilt : r.Built) :
    Complete r (compiledRequest r get).part.element.toNode
      (Plan.ownedNodes (compiledRequest r get).part.owned) := by
  have hagrees := agrees hbuilt h (Plan.compiledRequest_isSampler hbuilt hget)
  constructor
  · rw [hagrees.headers]
    exact congrArg (List.map entryTexts) (unreported_none r.headers)
  · intro hyes
    rw [hagrees.query hyes]
    exact congrArg (List.map argumentEntry) (unreported_none r.parameters)
  · intro hno
    by_contra hne
    cases (hagrees.ignored hno).mpr hne
  · intro hno body hbody hkeys
    obtain ⟨htexts, hempty⟩ := hagrees.entries hno body hbody hkeys
    have hkept : keptEntries [] .body body.kvs = body.kvs := unreported_none body.kvs
    rw [hkept] at htexts
    refine ⟨?_, htexts⟩
    intro hnone
    rw [hnone] at htexts
    cases hempty.mpr htexts
  · intro hno body hbody hkeys
    obtain ⟨htexts, hempty⟩ := hagrees.raw hno body hbody hkeys
    refine ⟨?_, htexts⟩
    by_contra hfalsy
    cases hempty.mpr (by simpa using hfalsy)
  · intro a ha
    have hkept : keptRegexes [] a.regex = a.regex := unreported_none a.regex
    exact hkept ▸ hagrees.regexes a ha
  · exact path_of_silent hget h

end Silent

/-! ## Tests in which nothing is found -/

theorem eachSampler_compiledTest (settings : Settings) {t : Test}
    {P : Request → Node → List Node → Prop}
    (h : ∀ s ∈ t.scenarios, ∀ r ∈ s.requests, P r (Plan.requestPart r).part.element.toNode
      (Plan.ownedNodes (Plan.requestPart r).part.owned)) :
    EachSampler P t (compiledTest settings t).part.toNode := by
  have hgroups : Pairs
      (fun s _ owned => ∃ samplers listener, owned = samplers ++ [listener, hashTree []] ∧
        Pairs P s.requests samplers) t.scenarios
      (Plan.ownedNodes (t.scenarios.map fun s => (Plan.scenarioPart settings s).part)) := by
    apply Plan.pairs_map
    intro s hs
    refine ⟨Plan.ownedNodes (s.requests.map fun r => (Plan.requestPart r).part),
      (Plan.listenerPart settings).element.toNode, ?_, Plan.pairs_map (h s hs)⟩
    rw [Plan.scenarioPart_owned, Plan.ownedNodes_append]
    rfl
  refine ⟨(Plan.testPlan t.name (.text "")).element.toNode, _, ?_, hgroups⟩
  simp only [compiledTest, Plan.collect, List.map_map]
  rfl

theorem found_of_silent {t : Test} {report : Report} (hcheck : (check t).result = .ok report)
    (hsilent : report.issues = []) : ∀ s ∈ t.scenarios, s.requests ≠ [] ∧
      ∀ r ∈ s.requests, (requestFindings r).result = .ok [] := by
  rw [issues_of_check hcheck, List.flatMap_eq_nil_iff] at hsilent
  intro s hs
  have hscenario := hsilent s hs
  rw [scenarioIssuesOf, List.append_eq_nil_iff, List.flatMap_eq_nil_iff] at hscenario
  constructor
  · intro hnone
    rw [hnone] at hscenario
    cases hscenario.1
  · intro r hr
    have hfound : foundIn r = [] := List.map_eq_nil_iff.mp (hscenario.2 r hr)
    rw [found_of_check hcheck s hs r hr, hfound]

/-- If a check of a test that was built from options finds nothing, the test compiles, each of its
requests with all its headers and assertions, all parameters of a GET or the whole body of another
request, and no query of a URL behind the path. -/
theorem check_silent {options : Value} {first : Int} {t : Test} {state : BuildState}
    (hbuilt : (Test.ofOptions options).outcome first = (.ok t, state)) {report : Report}
    {notices : List Notice} (hcheck : (check t).outcome = (.ok report, notices))
    (hsilent : report.issues = []) (settings : Settings) :
    ∃ plan written, (Plan.compile settings t).outcome = (.ok plan, written) ∧
      EachSampler Complete t plan.part.toNode := by
  have hfound := found_of_silent (result_of_outcome hcheck) hsilent
  have hrequests := Test.built_of_outcome hbuilt
  have hmethods : ∀ s ∈ t.scenarios, ∀ r ∈ s.requests, Plan.HasMethod r :=
    fun s hs r hr => hasMethod_of_found (hrequests s hs r hr) ((hfound s hs).2 r hr)
  refine ⟨_, _, outcome_eq_ok (Plan.compile_result_of_hasMethod settings hmethods),
    eachSampler_compiledTest settings fun s hs r hr => ?_⟩
  exact complete_of_silent (hmethods s hs r hr) ((hfound s hs).2 r hr) (hrequests s hs r hr)

/-! ## What neither looks at -/

/-- A test without the headers and parameters of its scenarios. -/
def withoutShared (t : Test) : Test :=
  { t with scenarios := t.scenarios.map fun s => { s with parameters := [], headers := [] } }

/-- A check does not look at the headers and parameters of scenarios. -/
@[simp]
theorem check_withoutShared (t : Test) : check (withoutShared t) = check t := by
  unfold check withoutShared
  rw [List.mapM_map]
  rfl

/-- Nor does the compiler: what they hold is in no plan. -/
@[simp]
theorem compile_withoutShared (settings : Settings) (t : Test) :
    Plan.compile settings (withoutShared t) = Plan.compile settings t := by
  unfold Plan.compile withoutShared
  rw [List.mapM_map]
  rfl

/-- Options of a test with a header and a parameter of a scenario, and with a GET that has a body
and a query. -/
def sharedOptions : Value :=
  .mapping
    [(.text "name", .text "T"),
     (.text "scenarioDefinition", .list
       [.mapping
         [(.text "name", .text "S"),
          (.text "headers", .list
            [.mapping [(.text "name", .text "Authorization"), (.text "value", .text "token")]]),
          (.text "parameters", .list
            [.mapping [(.text "name", .text "q"), (.text "value", .text "1")]]),
          (.text "requests", .list
            [.mapping
              [(.text "name", .text "R"), (.text "url", .text "http://h/a?x=1"),
               (.text "body", .mapping
                 [(.text "type", .text "Raw"), (.text "raw", .text "content")])]])]])]

/-- The request of the test. -/
def sharedRequest : Request where
  id := .int 2
  name := .text "R"
  url := .text "http://h/a?x=1"
  method := .text "GET"
  body := some { type := .text "Raw", raw := .text "content" }
  assertions := some { duration := some {} }

/-- The test that the options describe. -/
def sharedTest : Test where
  name := .text "T"
  scenarios :=
    [{ id := .int 1
       name := .text "S"
       headers := [{ name := .text "Authorization", value := .text "token" }]
       parameters := [{ name := .text "q", value := .text "1" }]
       requests := [sharedRequest] }]

theorem sharedTest_built :
    (Test.ofOptions sharedOptions).outcome 1 = (.ok sharedTest, { nextId := 3 }) :=
  rfl

/-- The parts of its URL. -/
def sharedUrl : Url where
  scheme := "http".toList
  netloc := "h".toList
  path := "/a".toList
  query := "x=1".toList
  fragment := []

theorem absolute_sharedUrl : Url.absolute "http://h/a?x=1" = .ok (sharedUrl, none) := by
  decide +kernel

theorem sharedRequest_isGet : sharedRequest.isGet = .ok true :=
  isGet_text "GET"

/-- Nothing is found about the request. -/
theorem requestFindings_sharedRequest : (requestFindings sharedRequest).result = .ok [] := by
  have hdisplay : sharedRequest.url.display = "http://h/a?x=1" := rfl
  have haddress : sharedRequest.address? true = some (.ofUrl sharedUrl none false) := by
    rw [Request.address?, if_pos (by decide), hdisplay, absolute_sharedUrl]
    rfl
  have hurl : urlFindingsOf sharedRequest true = [] := by
    rw [urlFindingsOf, if_neg (by decide), haddress, if_neg (by simp), if_neg (by simp)]
  have hfound := requestFindings_result (urlFindings_result sharedRequest_isGet)
    (payloadFindings_of_get sharedRequest_isGet) rfl
  rw [hurl] at hfound
  exact hfound

/-- Nothing is found about the test. -/
theorem check_sharedTest : ∃ report notices,
    (check sharedTest).outcome = (.ok report, notices) ∧ report.issues = [] := by
  have hfound : ∀ s ∈ sharedTest.scenarios, ∀ r ∈ s.requests,
      (requestFindings r).result = .ok ((fun _ => []) r) := by
    simpa [sharedTest] using requestFindings_sharedRequest
  exact ⟨_, _, outcome_eq_ok (check_of_found hfound), rfl⟩

theorem check_silent_sharedTest : ∃ report notices,
    (Test.ofOptions sharedOptions).outcome 1 = (.ok sharedTest, { nextId := 3 }) ∧
      (check sharedTest).outcome = (.ok report, notices) ∧ report.issues = [] ∧
      ∃ plan written, (Plan.compile {} sharedTest).outcome = (.ok plan, written) ∧
        EachSampler Complete sharedTest plan.part.toNode := by
  obtain ⟨report, notices, hcheck, hsilent⟩ := check_sharedTest
  exact ⟨report, notices, sharedTest_built, hcheck, hsilent,
    check_silent sharedTest_built hcheck hsilent {}⟩

/-- A check may find nothing although the header and the parameter of a scenario and the body and
the query of a GET are all missing in the plan. -/
theorem check_silent_not_complete : ∃ report notices plan written,
    (Test.ofOptions sharedOptions).outcome 1 = (.ok sharedTest, { nextId := 3 }) ∧
      (check sharedTest).outcome = (.ok report, notices) ∧ report.issues = [] ∧
      (Plan.compile {} sharedTest).outcome = (.ok plan, written) ∧
      plan.part.toNode.withTag "HeaderManager" = [] ∧
      ∀ n ∈ plan.part.toNode.withTag "HTTPSamplerProxy",
        argumentTexts n = [] ∧ propertyText n "HTTPSampler.path" = "/a" := by
  obtain ⟨report, notices, hcheck, hsilent⟩ := check_sharedTest
  have hmethod : Plan.HasMethod sharedRequest := Plan.hasMethod_of_isGet sharedRequest_isGet
  have hmethods : ∀ s ∈ sharedTest.scenarios, ∀ r ∈ s.requests, Plan.HasMethod r := by
    simpa [sharedTest] using hmethod
  refine ⟨report, notices, _, _, sharedTest_built, hcheck, hsilent,
    outcome_eq_ok (Plan.compile_result_of_hasMethod {} hmethods), ?_, ?_⟩
  · rw [Plan.withTag_headerManager]
    rfl
  · have hbuilt : sharedRequest.Built :=
      Test.built_of_outcome sharedTest_built _ (.head _) _ (.head _)
    have hcomplete := complete_of_silent hmethod requestFindings_sharedRequest hbuilt
    obtain ⟨url, hurl, hpath, -⟩ := hcomplete.path
    obtain rfl : sharedUrl = url :=
      Except.ok.inj ((Plan.absolute_eq_ok absolute_sharedUrl).symm.trans hurl)
    have hsamplers : sharedTest.requests = [sharedRequest] := rfl
    rw [Plan.withTag_sampler, hsamplers, List.map_singleton, List.forall_mem_singleton]
    exact ⟨hcomplete.parameters sharedRequest_isGet, hpath.trans (by decide)⟩

end Lint

end LoadPlan
