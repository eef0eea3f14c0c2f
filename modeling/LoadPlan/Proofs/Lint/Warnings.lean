import LoadPlan.Proofs.Lint.UrlWarnings
import LoadPlan.Proofs.Plan.Faults
import LoadPlan.Proofs.Plan.Warnings

/-!
# A check finds what a compilation warns of

The warnings of a compilation are found by a check as well: one finding for each of them, at the
request that it is about, and in the same order. What else a check finds a compilation leaves out
without a warning.
-/

namespace LoadPlan.Lint

open Logged
open Plan (Cause Concern causes concerns concernsIn subjectCause? subjectCauses urlCauses)

/-- A finding that a compilation warns of as well. -/
def Finding.isWarnedOf : Finding → Bool
  | malformedUrl _ => true
  | unsupportedSubject .. => true
  | _ => false

/-- What is found about a request for which there is a cause to warn. -/
def findingOf (r : Request) : Cause → Finding
  | .url _ => .malformedUrl r.url
  | .subject index name => .unsupportedSubject index name

/-- The issue of a concern. -/
def issueOf (c : Concern) : Issue :=
  ⟨findingOf c.request c.cause,
    requestLocation (scenarioLabel c.scenario.name c.scenario.id) c.request⟩

/-! ## Requests -/

theorem filter_eq_nil_of_category {c : Category} (hurl : c ≠ .url) (hassertions : c ≠ .assertions)
    {xs : List Finding} (h : ∀ x ∈ xs, x.category = c) : xs.filter Finding.isWarnedOf = [] := by
  rw [List.filter_eq_nil_iff]
  intro x hx hwarned
  have hcategory := h x hx
  unfold Finding.isWarnedOf at hwarned
  split at hwarned
  · exact hurl hcategory.symm
  · exact hassertions hcategory.symm
  · cases hwarned

theorem filter_urlFindingsOf (r : Request) (get : Bool) :
    (urlFindingsOf r get).filter Finding.isWarnedOf = (urlCauses r).map (findingOf r) := by
  unfold urlFindingsOf urlCauses Request.address?
  by_cases hurl : r.url.isTruthy = true
  · rw [if_neg (by simp [hurl]), if_pos hurl, if_pos hurl]
    cases Url.absolute r.url.display with
    | error problem => rfl
    | ok parts =>
      rw [if_neg (by simp)]
      split <;> rfl
  · rw [if_pos (by simp [hurl]), if_neg hurl]
    rfl

theorem filter_regexFinding? (r : Request) (a : RegexAssertion × Nat) :
    (regexFinding? a).filter Finding.isWarnedOf = (subjectCause? a).map (findingOf r) := by
  unfold regexFinding? subjectCause?
  cases a.1.isValid <;> cases Subject.ofValue? a.1.subject <;> rfl

theorem filter_durationFindings (duration : Option ResponseTime) :
    (durationFindings duration).filter Finding.isWarnedOf = [] := by
  unfold durationFindings
  split
  · split <;> rfl
  · rfl

theorem filter_assertionFindings {r : Request} {a : Assertions} (ha : r.assertions = some a)
    {found : List Finding} (h : assertionFindings r = .ok found) :
    found.filter Finding.isWarnedOf = (subjectCauses r).map (findingOf r) := by
  obtain ⟨regex, hregex, rfl⟩ := assertionFindings_eq ha h
  obtain rfl := eq_of_regexFindings hregex
  have htext : (if a.text.isEmpty then [] else [Finding.textAssertions a.text.length]).filter
      Finding.isWarnedOf = [] := by
    split <;> rfl
  simp only [List.filter_append, htext, filter_durationFindings, List.append_nil, subjectCauses, ha,
    List.filter_filterMap, filter_regexFinding? r, List.map_filterMap]

/-- Among what is found about a request, what a compilation warns of are its causes to do so. -/
theorem filter_requestFindings {r : Request} (hbuilt : r.Built) {findings : List Finding}
    (h : (requestFindings r).result = .ok findings) :
    findings.filter Finding.isWarnedOf = (causes r).map (findingOf r) := by
  obtain ⟨url, payload, assertions, hurl, hpayload, hassertions, rfl⟩ :=
    exists_of_requestFindings h
  obtain ⟨get, hget⟩ := isGet_of_payloadFindings hpayload
  obtain ⟨a, -, ha, -⟩ := hbuilt.assertions
  obtain rfl := Except.ok.inj (hurl.symm.trans (urlFindings_result hget))
  have hheaders := filter_eq_nil_of_category (by decide) (by decide) (droppedHeaders_category r)
  have hsent : payload.filter Finding.isWarnedOf = [] := by
    rw [List.filter_eq_nil_iff]
    intro x hx hwarned
    obtain hcategory | hcategory := payloadFindings_category hbuilt.body hpayload x hx <;>
      cases x <;> cases hwarned <;> cases hcategory
  simp only [List.filter_append, hheaders, hsent, List.append_nil, filter_urlFindingsOf,
    filter_assertionFindings ha hassertions, causes, List.map_append]

/-! ## Tests -/

theorem filter_scenarioIssuesOf {s : Scenario} (hbuilt : ∀ r ∈ s.requests, r.Built)
    (h : ∀ r ∈ s.requests, (requestFindings r).result = .ok (foundIn r)) :
    (scenarioIssuesOf foundIn s).filter (·.finding.isWarnedOf) = (concernsIn s).map issueOf := by
  have hempty : (if s.requests.isEmpty then
      [(⟨.noRequests, scenarioLabel s.name s.id⟩ : Issue)] else []).filter
        (·.finding.isWarnedOf) = [] := by
    split <;> rfl
  unfold scenarioIssuesOf concernsIn
  dsimp only
  rw [List.filter_append, hempty, List.nil_append, List.filter_flatMap, List.map_flatMap]
  refine List.flatMap_congr fun r hr => ?_
  let located (x : Finding) : Issue := ⟨x, requestLocation (scenarioLabel s.name s.id) r⟩
  calc ((foundIn r).map located).filter (·.finding.isWarnedOf)
      = ((foundIn r).filter Finding.isWarnedOf).map located := List.filter_map ..
    _ = ((causes r).map (findingOf r)).map located := by
        rw [filter_requestFindings (hbuilt r hr) (h r hr)]
    _ = ((causes r).map fun cause => ⟨s, r, cause⟩).map issueOf := by
        rw [List.map_map, List.map_map]
        rfl

theorem issues_of_concerns {t : Test} (hbuilt : ∀ s ∈ t.scenarios, ∀ r ∈ s.requests, r.Built)
    {report : Report} (h : (check t).result = .ok report) :
    report.issues.filter (·.finding.isWarnedOf) = (concerns t).map issueOf := by
  rw [issues_of_check h, List.filter_flatMap, concerns, List.map_flatMap]
  exact List.flatMap_congr fun s hs =>
    filter_scenarioIssuesOf (hbuilt s hs) (found_of_check h s hs)

/-- The warnings of a compilation and what a check finds about malformed URLs and unsupported
subjects are those of the same concerns in the same order, if the test was built from options. -/
theorem warnings_eq_found {options : Value} {first : Int} {t : Test} {state : BuildState}
    (hbuilt : (Test.ofOptions options).outcome first = (.ok t, state)) {settings : Settings}
    {xml : String} {notices : List Notice}
    (hxml : (Plan.toXml settings t).outcome = (.ok xml, notices)) {report : Report}
    {given : List Notice} (hcheck : (check t).outcome = (.ok report, given)) :
    notices.filter (fun n => n.level == .warning) = (concerns t).map Concern.notice ∧
      report.issues.filter (·.finding.isWarnedOf) = (concerns t).map issueOf :=
  have hrequests := Test.built_of_outcome hbuilt
  ⟨Plan.warnings_of_toXml settings hrequests hxml,
    issues_of_concerns hrequests (result_of_outcome hcheck)⟩

/-! ## A test with concerns -/

/-- Options of a test whose first request has a URL that is not absolute, and both of whose requests
have an assertion that looks at no known part of a response. -/
def concernedOptions : Value :=
  let asserted (name url subject : String) : Value := .mapping
    [(.text "name", .text name), (.text "url", .text url),
     (.text "assertions", .mapping
       [(.text "regex", .list
         [.mapping [(.text "subject", .text subject)],
          .mapping [(.text "subject", .text subject), (.text "expression", .text "a")]])])]
  .mapping
    [(.text "name", .text "T"),
     (.text "scenarioDefinition", .list
       [.mapping
         [(.text "name", .text "S"),
          (.text "requests", .list
            [asserted "Q" "/orders" "Cookies", asserted "R" "" "Body"])]])]

/-- A request of the test. -/
def concernedRequest (id : Int) (name url subject : String) : Request where
  id := .int id
  name := .text name
  url := .text url
  method := .text "GET"
  body := some {}
  assertions := some
    { duration := some {}
      regex :=
        [{ subject := .text subject },
         { subject := .text subject, expression := .text "a" }] }

/-- The scenario of the test. -/
def concernedScenario : Scenario where
  id := .int 1
  name := .text "S"
  requests := [concernedRequest 2 "Q" "/orders" "Cookies", concernedRequest 3 "R" "" "Body"]

/-- The test that the options describe. -/
def concernedTest : Test where
  name := .text "T"
  scenarios := [concernedScenario]

theorem concernedTest_built :
    (Test.ofOptions concernedOptions).outcome 1 = (.ok concernedTest, { nextId := 4 }) :=
  rfl

theorem concerns_concernedTest : concerns concernedTest =
    [⟨concernedScenario, concernedRequest 2 "Q" "/orders" "Cookies", .url .notAbsolute⟩,
     ⟨concernedScenario, concernedRequest 2 "Q" "/orders" "Cookies", .subject 2 (.text "Cookies")⟩,
     ⟨concernedScenario, concernedRequest 3 "R" "" "Body", .subject 2 (.text "Body")⟩] := by
  have habsolute : Url.absolute "/orders" = .error .notAbsolute := by decide +kernel
  have hfirst : causes (concernedRequest 2 "Q" "/orders" "Cookies") =
      [.url .notAbsolute, .subject 2 (.text "Cookies")] := by
    have hdisplay : (concernedRequest 2 "Q" "/orders" "Cookies").url.display = "/orders" := rfl
    rw [causes, urlCauses, if_pos (by decide), hdisplay, habsolute]
    rfl
  have hsecond : causes (concernedRequest 3 "R" "" "Body") = [.subject 2 (.text "Body")] := rfl
  simp [concerns, concernedTest, concernsIn, concernedScenario, hfirst, hsecond]

theorem result_of_get {r : Request} (hget : r.isGet = .ok true) {found : List Finding}
    (h : assertionFindings r = .ok found) : (requestFindings r).result = .ok (foundIn r) :=
  result_foundIn (requestFindings_result (urlFindings_result hget) (payloadFindings_of_get hget) h)

theorem check_concernedTest : ∃ report, (check concernedTest).result = .ok report := by
  have hfound : ∀ s ∈ concernedTest.scenarios, ∀ r ∈ s.requests,
      (requestFindings r).result = .ok (foundIn r) := by
    simp only [concernedTest, concernedScenario, List.forall_mem_singleton, List.forall_mem_cons]
    exact ⟨result_of_get (isGet_text "GET") rfl, result_of_get (isGet_text "GET") rfl⟩
  exact ⟨_, check_of_found hfound⟩

theorem warnings_eq_found_concernedTest : ∃ xml notices report given,
    (Test.ofOptions concernedOptions).outcome 1 = (.ok concernedTest, { nextId := 4 }) ∧
      (Plan.toXml {} concernedTest).outcome = (.ok xml, notices) ∧
      (check concernedTest).outcome = (.ok report, given) ∧
      notices.filter (fun n => n.level == .warning) =
        [.malformedUrl (.text "/orders") (.text "Q") .notAbsolute,
         .unsupportedSubject (.text "Cookies") (.text "Q"),
         .unsupportedSubject (.text "Body") (.text "R")] ∧
      report.issues.filter (·.finding.isWarnedOf) =
        [⟨.malformedUrl (.text "/orders"), .text "S > Q"⟩,
         ⟨.unsupportedSubject 2 (.text "Cookies"), .text "S > Q"⟩,
         ⟨.unsupportedSubject 2 (.text "Body"), .text "S > R"⟩] := by
  obtain ⟨report, hreport⟩ := check_concernedTest
  obtain ⟨xml, hxml⟩ := Plan.exists_toXml_of_hasMethod {} (Plan.hasMethod_of_check hreport)
  obtain ⟨hwarned, hfound⟩ :=
    warnings_eq_found concernedTest_built (outcome_eq_ok hxml) (outcome_eq_ok hreport)
  rw [concerns_concernedTest] at hwarned hfound
  exact ⟨xml, _, report, _, concernedTest_built, outcome_eq_ok hxml, outcome_eq_ok hreport,
    hwarned, hfound⟩

end LoadPlan.Lint
