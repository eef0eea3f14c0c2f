import LoadPlan.Proofs.Lint.Findings
import LoadPlan.Proofs.Plan.Shape
import Mathlib.Data.List.Forall2

/-!
# Findings agree with the plan

What a check of a test reports is what its compilation leaves out, entry by entry: an entry is
compiled exactly when its index is not reported, and a body, a list of parameters or a duration is
reported exactly when nothing of it is compiled.
-/

namespace LoadPlan.Lint

open Logged
open Plan (Pairs IsSampler IsHeaderManager IsRegexAssertion IsDurationAssertion IsThreadGroup IsPlan
  itemsOf pairOf entryTexts argumentEntry argumentTexts hashTree validOnly headerLists sentEntries)
open Xml (Node)

/-! ## What is compiled for a request -/

/-- The names and values of the headers among elements. -/
def headerTexts (elements : List Node) : List (String × String) :=
  (elements.filter (·.tag == "HeaderManager")).flatMap fun n =>
    (itemsOf n "HeaderManager.headers").map (pairOf "Header.name" "Header.value")

/-- A sampler with what it owns, and what is found about its request. -/
structure Agrees (r : Request) (findings : List Finding) (item : Node) (owned : List Node) :
    Prop where
  compared : ∃ get, r.isGet = .ok get
  headers : headerTexts owned = (keptEntries findings .headers r.headers).map entryTexts
  query : r.isGet = .ok true →
    argumentTexts item = (keptEntries findings .parameters r.parameters).map argumentEntry
  ignored : r.isGet = .ok false →
    (.parametersIgnored r.method ∈ findings ↔ r.parameters ≠ [])
  entries : r.isGet = .ok false → ∀ body, r.body = some body → body.isKeyValue = true →
    argumentTexts item = (keptEntries findings .body body.kvs).map argumentEntry ∧
      (.noValidEntries ∈ findings ↔ argumentTexts item = [])
  raw : r.isGet = .ok false → ∀ body, r.body = some body → body.isKeyValue = false →
    argumentTexts item = [argumentEntry ⟨.text "", body.raw⟩] ∧
      (.emptyRawBody r.method ∈ findings ↔ body.raw.isTruthy = false)
  regexes : ∀ a, r.assertions = some a →
    List.Forall₂ (IsRegexAssertion · · []) (keptRegexes findings a.regex)
      (owned.filter (·.tag == "ResponseAssertion"))
  duration : ∀ a t, r.assertions = some a → a.duration = some t →
    (owned.filter (·.tag == "DurationAssertion") = [] ↔
      t.value.isNull = true ∨ .noThreshold ∈ findings)

/-- The samplers of a plan, each with its request. -/
def EachSampler (P : Request → Node → List Node → Prop) (t : Test) (root : Node) : Prop :=
  ∃ plan groups, root.content = [hashTree [plan, hashTree groups]] ∧
    Pairs (fun s _ owned => ∃ samplers listener, owned = samplers ++ [listener, hashTree []] ∧
      Pairs P s.requests samplers) t.scenarios groups

/-! ## Rows of elements -/

section Rows

variable {α : Type} {P Q : α → Node → List Node → Prop} {as : List α} {nodes : List Node}

theorem pairs_imp (h : Pairs P as nodes) (himp : ∀ a ∈ as, ∀ item owned, P a item owned →
    Q a item owned) : Pairs Q as nodes := by
  induction h with
  | nil => exact .nil
  | cons hhead _ ih =>
    exact .cons (himp _ List.mem_cons_self _ _ hhead)
      (ih fun a ha => himp a (List.mem_cons_of_mem _ ha))

variable {tag : String} (htag : ∀ a item owned, P a item owned → item.tag = tag)

include htag in
/-- The elements of a row have its tag. -/
theorem pairs_filter_same (hne : tag ≠ "hashTree") (h : Pairs P as nodes) :
    List.Forall₂ (fun a n => ∃ owned, P a n owned) as (nodes.filter (·.tag == tag)) := by
  induction h with
  | nil => exact .nil
  | cons hhead _ ih =>
    rw [List.filter_cons_of_pos (by simp [htag _ _ _ hhead]),
      List.filter_cons_of_neg (by simpa [hashTree, Node.tag] using hne.symm)]
    exact .cons ⟨_, hhead⟩ ih

include htag in
theorem pairs_filter_other (other : String) (hne : other ≠ "hashTree") (hother : tag ≠ other)
    (h : Pairs P as nodes) : nodes.filter (·.tag == other) = [] := by
  induction h with
  | nil => rfl
  | cons hhead _ ih =>
    rw [List.filter_cons_of_neg (by simpa [htag _ _ _ hhead] using hother),
      List.filter_cons_of_neg (by simpa [hashTree, Node.tag] using hne.symm), ih]

end Rows

theorem isHeaderManager_tag (kvs : List KeyValue) (item : Node) (owned : List Node)
    (h : IsHeaderManager kvs item owned) : item.tag = "HeaderManager" :=
  h.tag

theorem isRegexAssertion_tag (a : RegexAssertion) (item : Node) (owned : List Node)
    (h : IsRegexAssertion a item owned) : item.tag = "ResponseAssertion" :=
  h.tag

theorem isDurationAssertion_tag (t : ResponseTime) (item : Node) (owned : List Node)
    (h : IsDurationAssertion t item owned) : item.tag = "DurationAssertion" :=
  h.tag

/-- The headers of managers are those that the managers are for. -/
theorem headerTexts_of_pairs {lists : List (List KeyValue)} {nodes : List Node}
    (h : Pairs IsHeaderManager lists nodes) :
    headerTexts nodes = lists.flatMap fun kvs => kvs.map entryTexts := by
  have hrow := pairs_filter_same isHeaderManager_tag (by decide) h
  clear h
  unfold headerTexts
  generalize nodes.filter (·.tag == "HeaderManager") = managers at hrow
  induction hrow with
  | nil => rfl
  | cons hhead _ ih =>
    obtain ⟨owned, hhead⟩ := hhead
    rw [List.flatMap_cons, List.flatMap_cons, hhead.entries, ih]

theorem flatMap_headerLists (r : Request) :
    ((headerLists r).flatMap fun kvs => kvs.map entryTexts) =
      (validOnly r.headers).map entryTexts := by
  unfold headerLists
  split
  · simp [List.isEmpty_iff.mp ‹_›]
  · simp

/-! ## Requests -/

section Requests

variable {r : Request} {findings : List Finding} {item : Node} {owned : List Node}

theorem eq_of_isDropped {list : EntryList} {i : Nat} {x : Finding}
    (h : isDropped list i x = true) : x = .droppedEntry list i := by
  unfold isDropped at h
  split at h
  · simp only [Bool.and_eq_true, decide_eq_true_eq] at h
    rw [h.1, h.2]
  · cases h

theorem category_of_isDroppedRegex {i : Nat} {x : Finding} (h : isDroppedRegex i x = true) :
    x.category = .assertions := by
  unfold isDroppedRegex at h
  split at h
  · rfl
  · rfl
  · cases h

section Parts

variable {payload assertions : List Finding} (hparts : FoundParts r findings payload assertions)

include hparts

theorem keptHeaders_eq : keptEntries findings .headers r.headers = validOnly r.headers :=
  keptEntries_eq fun _ => any_eq_of_mem_iff fun x hx =>
    hparts.headers x (by rw [eq_of_isDropped hx]; rfl)

theorem keptParameters_eq (hget : r.isGet = .ok true) :
    keptEntries findings .parameters r.parameters = validOnly r.parameters := by
  obtain rfl := Except.ok.inj ((payloadFindings_of_get hget).symm.trans hparts.ofPayload)
  exact keptEntries_eq fun _ => any_eq_of_mem_iff fun x hx =>
    hparts.payload x (.inl (by rw [eq_of_isDropped hx]; rfl))

theorem keptRegexes_of_parts {a : Assertions} (ha : r.assertions = some a) :
    keptRegexes findings a.regex = Plan.checkedRegexes r := by
  obtain ⟨regex, hregex, hall⟩ := assertionFindings_eq ha hparts.ofAssertions
  have hrest : ∀ i, findings.any (isDroppedRegex i) = regex.any (isDroppedRegex i) := by
    intro i
    have htext : (if a.text.isEmpty then [] else [Finding.textAssertions a.text.length]).any
        (isDroppedRegex i) = false := by
      split <;> rfl
    have hduration : (durationFindings a.duration).any (isDroppedRegex i) = false := by
      unfold durationFindings
      split
      · split <;> rfl
      · rfl
    rw [any_eq_of_mem_iff fun x hx => hparts.assertions x (category_of_isDroppedRegex hx), hall,
      List.any_append, List.any_append, htext, hduration, Bool.or_false, Bool.or_false]
  rw [keptRegexes_eq hregex hrest, Plan.checkedRegexes, ha]
  rfl

theorem noThreshold_iff {a : Assertions} {t : ResponseTime} (ha : r.assertions = some a)
    (ht : a.duration = some t) : .noThreshold ∈ findings ↔
      t.value.isNull = false ∧ t.isValid = false := by
  obtain ⟨regex, hregex, hall⟩ := assertionFindings_eq ha hparts.ofAssertions
  have hnotRegex : .noThreshold ∉ regex := by
    rw [eq_of_regexFindings hregex]
    intro hmem
    obtain ⟨b, -, hb⟩ := List.mem_filterMap.mp hmem
    obtain h | h := eq_of_regexFinding? hb <;> cases h
  rw [hparts.assertions _ rfl, hall, List.mem_append, List.mem_append, ht]
  simp [hnotRegex, durationFindings]

section NotGet

variable {body : Body} (hbody : r.body = some body) (hget : r.isGet = .ok false)

include hbody hget

theorem parametersIgnored_iff : .parametersIgnored r.method ∈ findings ↔ r.parameters ≠ [] := by
  obtain ⟨type, htype, rfl⟩ := payloadFindings_of_not_get hbody hget hparts.ofPayload
  have hnotType : .parametersIgnored r.method ∉ type := fun h => nomatch htype _ h
  have hnotSent : .parametersIgnored r.method ∉ sentFindings r body :=
    fun h => nomatch sentFindings_category r body _ h
  rw [hparts.payload _ (.inl rfl), List.mem_append, List.mem_append]
  simp [hnotType, hnotSent, ignoredFindings]

theorem mem_sentFindings {x : Finding} (hx : x.category = .body)
    (htype : x ≠ .unknownBodyType body.type) :
    x ∈ findings ↔ x ∈ sentFindings r body := by
  obtain ⟨type, hall, rfl⟩ := payloadFindings_of_not_get hbody hget hparts.ofPayload
  have hnotType : x ∉ type := fun h => htype (hall x h)
  have hnotIgnored : x ∉ ignoredFindings r := fun h => by
    rw [ignoredFindings_category r x h] at hx
    cases hx
  rw [hparts.payload x (.inr hx), List.mem_append, List.mem_append]
  simp [hnotType, hnotIgnored]

theorem keptKeyValues_eq (hkeys : body.isKeyValue = true) :
    keptEntries findings .body body.kvs = validOnly body.kvs := by
  refine keptEntries_eq fun i => any_eq_of_mem_iff fun x hx => ?_
  obtain rfl := eq_of_isDropped hx
  rw [mem_sentFindings hparts hbody hget rfl (by simp), sentFindings, if_pos hkeys, List.mem_append]
  split <;> simp

theorem noValidEntries_iff (hkeys : body.isKeyValue = true) :
    .noValidEntries ∈ findings ↔ validOnly body.kvs = [] := by
  have hnotDropped : .noValidEntries ∉ dropped .body body.kvs := fun h => by
    obtain ⟨i, hi⟩ := exists_of_mem_dropped h
    cases hi
  rw [mem_sentFindings hparts hbody hget rfl (by simp), sentFindings, if_pos hkeys, List.mem_append,
    Body.isValid, if_pos hkeys, ← List.isEmpty_iff, Plan.validOnly_isEmpty]
  cases body.kvs.any KeyValue.isValid <;> simp [hnotDropped]

theorem emptyRawBody_iff (hkeys : body.isKeyValue = false) :
    .emptyRawBody r.method ∈ findings ↔ body.raw.isTruthy = false := by
  rw [mem_sentFindings hparts hbody hget rfl (by simp), sentFindings, Body.isValid]
  simp [hkeys]

end NotGet

end Parts

section Owned

variable {headers regexes durations : List Node}
  {lists : List (List KeyValue)} {as : List RegexAssertion} {ts : List ResponseTime}
  (hheaders : Pairs IsHeaderManager lists headers) (hregexes : Pairs IsRegexAssertion as regexes)
  (hdurations : Pairs IsDurationAssertion ts durations)

include hheaders hregexes hdurations

theorem headerTexts_owned : headerTexts (headers ++ (regexes ++ durations)) =
    lists.flatMap fun kvs => kvs.map entryTexts := by
  have hnone := pairs_filter_other isRegexAssertion_tag "HeaderManager" (by decide) (by decide)
    hregexes
  have hnone' := pairs_filter_other isDurationAssertion_tag "HeaderManager" (by decide)
    (by decide) hdurations
  rw [← headerTexts_of_pairs hheaders, headerTexts, List.filter_append, List.filter_append, hnone,
    hnone', List.append_nil, List.append_nil, headerTexts]

theorem regexes_owned : List.Forall₂ (IsRegexAssertion · · []) as
    ((headers ++ (regexes ++ durations)).filter (·.tag == "ResponseAssertion")) := by
  have hnone := pairs_filter_other isHeaderManager_tag "ResponseAssertion" (by decide)
    (by decide) hheaders
  have hnone' := pairs_filter_other isDurationAssertion_tag "ResponseAssertion"
    (by decide) (by decide) hdurations
  rw [List.filter_append, List.filter_append, hnone, hnone', List.nil_append, List.append_nil]
  refine (pairs_filter_same isRegexAssertion_tag (by decide) hregexes).imp ?_
  rintro a n ⟨owned, h⟩
  exact h.owned ▸ h

theorem durations_owned :
    (headers ++ (regexes ++ durations)).filter (·.tag == "DurationAssertion") = [] ↔ ts = [] := by
  have hnone := pairs_filter_other isHeaderManager_tag "DurationAssertion" (by decide)
    (by decide) hheaders
  have hnone' := pairs_filter_other isRegexAssertion_tag "DurationAssertion"
    (by decide) (by decide) hregexes
  have hlength := (pairs_filter_same isDurationAssertion_tag (by decide) hdurations).length_eq
  rw [List.filter_append, List.filter_append, hnone, hnone', List.nil_append, List.nil_append,
    ← List.length_eq_zero_iff, ← hlength, List.length_eq_zero_iff]

end Owned

theorem checkedDurations_eq_nil {a : Assertions} {t : ResponseTime} (ha : r.assertions = some a)
    (ht : a.duration = some t) : Plan.checkedDurations r = [] ↔
      t.value.isNull = true ∨ t.value.isNull = false ∧ t.isValid = false := by
  have hnull : t.value.isNull = true → t.isValid = false := by
    unfold ResponseTime.isValid
    cases t.value <;> simp [Value.isNull, Value.isTruthy]
  rw [Plan.checkedDurations, ha, Option.bind_some, ht]
  cases hvalid : t.isValid with
  | false => cases t.value.isNull <;> simp [Option.filter_some_neg hvalid]
  | true =>
    rw [Option.filter_some_pos hvalid]
    cases hn : t.value.isNull with
    | false => simp
    | true => simp [hnull hn] at hvalid

/-- What is found about a request agrees with every sampler of it. -/
theorem agrees (hbuilt : r.Built) (hfound : (requestFindings r).result = .ok findings)
    (h : IsSampler r item owned) : Agrees r findings item owned := by
  obtain ⟨body, hbody⟩ := hbuilt.body
  obtain ⟨a, duration, ha, hduration⟩ := hbuilt.assertions
  obtain ⟨payload, assertions, hparts⟩ := foundParts ⟨body, hbody⟩ ⟨a, ha⟩ hfound
  obtain ⟨get, hget, -, -, htexts⟩ := h.arguments
  obtain ⟨headers, regexes, durations, rfl, hheaders, hregexes, hdurations⟩ := h.owned
  refine { compared := ⟨get, hget⟩, headers := ?_, query := ?_, ignored := ?_, entries := ?_,
           raw := ?_, regexes := ?_, duration := ?_ }
  · rw [headerTexts_owned hheaders hregexes hdurations, flatMap_headerLists, keptHeaders_eq hparts]
  · intro hyes
    obtain rfl := Except.ok.inj (hget.symm.trans hyes)
    rw [htexts, keptParameters_eq hparts hyes]
    rfl
  · exact parametersIgnored_iff hparts hbody
  · intro hno body' hbody' hkeys
    obtain rfl := Option.some.inj (hbody.symm.trans hbody')
    obtain rfl := Except.ok.inj (hget.symm.trans hno)
    have hsent : sentEntries r false = validOnly body.kvs := by
      simp [sentEntries, hbody, hkeys]
    rw [htexts, hsent, keptKeyValues_eq hparts hbody hno hkeys,
      noValidEntries_iff hparts hbody hno hkeys, List.map_eq_nil_iff]
    exact ⟨rfl, Iff.rfl⟩
  · intro hno body' hbody' hkeys
    obtain rfl := Option.some.inj (hbody.symm.trans hbody')
    obtain rfl := Except.ok.inj (hget.symm.trans hno)
    refine ⟨?_, emptyRawBody_iff hparts hbody hno hkeys⟩
    rw [htexts]
    simp [sentEntries, hbody, hkeys]
  · intro a' ha'
    obtain rfl := Option.some.inj (ha.symm.trans ha')
    rw [keptRegexes_of_parts hparts ha]
    exact regexes_owned hheaders hregexes hdurations
  · intro a' t ha' ht
    obtain rfl := Option.some.inj (ha.symm.trans ha')
    rw [noThreshold_iff hparts ha ht, durations_owned hheaders hregexes hdurations]
    exact checkedDurations_eq_nil ha ht

end Requests

/-! ## Tests -/

theorem eachSampler_of_isPlan {settings : Settings} {t : Test} {root : Node}
    {P : Request → Node → List Node → Prop} (h : IsPlan settings t root)
    (himp : ∀ s ∈ t.scenarios, ∀ r ∈ s.requests, ∀ item owned, IsSampler r item owned →
      P r item owned) : EachSampler P t root := by
  obtain ⟨plan, groups, hcontent, -, hgroups⟩ := h.content
  refine ⟨plan, groups, hcontent, pairs_imp hgroups fun s hs item owned hgroup => ?_⟩
  obtain ⟨samplers, listener, howned, hsamplers, -⟩ := hgroup.owned
  exact ⟨samplers, listener, howned, pairs_imp hsamplers (himp s hs)⟩

theorem hasMethod_of_found {r : Request} (hbuilt : r.Built) {findings : List Finding}
    (h : (requestFindings r).result = .ok findings) : Plan.HasMethod r := by
  obtain ⟨a, duration, ha, -⟩ := hbuilt.assertions
  obtain ⟨payload, assertions, hparts⟩ := foundParts hbuilt.body ⟨a, ha⟩ h
  obtain ⟨get, hget⟩ := isGet_of_payloadFindings hparts.ofPayload
  exact Plan.hasMethod_of_isGet hget

/-- If a test that was built from options can be checked, it compiles, its issues are those found
about its requests, and what is found about each request agrees with its sampler. -/
theorem check_agrees {options : Value} {first : Int} {t : Test} {state : BuildState}
    (hbuilt : (Test.ofOptions options).outcome first = (.ok t, state)) {report : Report}
    {notices : List Notice} (hcheck : (check t).outcome = (.ok report, notices))
    (settings : Settings) :
    ∃ plan written findings, (Plan.compile settings t).outcome = (.ok plan, written) ∧
      (∀ s ∈ t.scenarios, ∀ r ∈ s.requests, (requestFindings r).result = .ok (findings r)) ∧
      report.issues = t.scenarios.flatMap (scenarioIssuesOf findings) ∧
      EachSampler (fun r => Agrees r (findings r)) t plan.part.toNode := by
  have hfound := found_of_check (result_of_outcome hcheck)
  have hrequests := Test.built_of_outcome hbuilt
  have hmethods : ∀ s ∈ t.scenarios, ∀ r ∈ s.requests, Plan.HasMethod r :=
    fun s hs r hr => hasMethod_of_found (hrequests s hs r hr) (hfound s hs r hr)
  have hplan := Plan.compiledTest_isPlan settings hrequests hmethods
  refine ⟨_, _, foundIn, outcome_eq_ok (Plan.compile_result_of_hasMethod settings hmethods),
    hfound, issues_of_check (result_of_outcome hcheck), eachSampler_of_isPlan hplan ?_⟩
  exact fun s hs r hr _ _ => agrees (hrequests s hs r hr) (hfound s hs r hr)

theorem check_agrees_sample : ∃ report notices,
    (Test.ofOptions sampleOptions).outcome 1 = (.ok sampleTest, { nextId := 4 }) ∧
      (check sampleTest).outcome = (.ok report, notices) ∧
      ∃ plan written findings, (Plan.compile {} sampleTest).outcome = (.ok plan, written) ∧
        (∀ s ∈ sampleTest.scenarios, ∀ r ∈ s.requests,
          (requestFindings r).result = .ok (findings r)) ∧
        report.issues = sampleTest.scenarios.flatMap (scenarioIssuesOf findings) ∧
        EachSampler (fun r => Agrees r (findings r)) sampleTest plan.part.toNode := by
  have hfound : ∀ s ∈ sampleTest.scenarios, ∀ r ∈ s.requests,
      (requestFindings r).result = .ok (foundIn r) := by
    simp only [sampleTest, List.forall_mem_cons, List.not_mem_nil, false_implies, implies_true,
      and_true]
    exact ⟨result_foundIn (requestFindings_result rfl (payloadFindings_of_get (isGet_text "get"))
        rfl),
      result_foundIn (requestFindings_result rfl (by
        rw [payloadFindings, Request.isGet, isGet_text]
        rfl) rfl)⟩
  have hcheck := outcome_eq_ok (check_of_found hfound)
  exact ⟨_, _, sampleTest_built, hcheck, check_agrees sampleTest_built hcheck {}⟩

end LoadPlan.Lint
