import LoadPlan.Lint.Check
import LoadPlan.Proofs.Plan.Compiled

/-!
# What is found about a request

Findings about entries name their index. An entry is reported exactly when its own check fails, so
those that are not reported are found by the same check. The findings of a test are those of its
requests, one after another.
-/

namespace LoadPlan.Lint

open Logged

/-! ## Indices -/

section Indices

variable {α : Type}

/-- The members of a list whose index, from 1, is not reported. -/
def unreported (reported : Nat → Bool) (as : List α) : List α :=
  ((as.zipIdx 1).filter fun a => !reported a.2).map Prod.fst

theorem unreported_eq_filter {reported : Nat → Bool} {p : α → Bool} {as : List α}
    (h : ∀ a ∈ as.zipIdx 1, reported a.2 = !p a.1) : unreported reported as = as.filter p := by
  have hsame : (as.zipIdx 1).filter (fun a => !reported a.2) =
      (as.zipIdx 1).filter (p ∘ Prod.fst) :=
    List.filter_congr fun a ha => by simp [h a ha]
  rw [unreported, hsame, ← List.filter_map, List.zipIdx_map_fst]

/-- An index occurs once. -/
theorem eq_of_mem_zipIdx {as : List α} {first : Nat} {a b : α × Nat} (ha : a ∈ as.zipIdx first)
    (hb : b ∈ as.zipIdx first) (h : a.2 = b.2) : a = b := by
  obtain ⟨a, i⟩ := a
  obtain ⟨b, j⟩ := b
  obtain rfl : i = j := h
  rw [List.mk_mem_zipIdx_iff_le_and_getElem?_sub] at ha hb
  rw [Option.some.inj (ha.2.symm.trans hb.2)]

/-- Among findings about members of a list, those about one of them are what is found about it. -/
theorem any_about {f : α × Nat → Option Finding} {about : Nat → Finding → Bool} {as : List α}
    (habout : ∀ a i x, f a = some x → about i x = decide (i = a.2)) {a : α × Nat}
    (ha : a ∈ as.zipIdx 1) :
    ((as.zipIdx 1).filterMap f).any (about a.2) = (f a).isSome := by
  rw [Bool.eq_iff_iff, List.any_eq_true, Option.isSome_iff_exists]
  constructor
  · rintro ⟨x, hx, hax⟩
    obtain ⟨b, hb, hfb⟩ := List.mem_filterMap.mp hx
    rw [habout b a.2 x hfb, decide_eq_true_eq] at hax
    rw [eq_of_mem_zipIdx ha hb hax]
    exact ⟨x, hfb⟩
  · rintro ⟨x, hx⟩
    exact ⟨x, List.mem_filterMap.mpr ⟨a, ha, hx⟩, by rw [habout a a.2 x hx, decide_eq_true rfl]⟩

end Indices

/-! ## Entries -/

/-- A finding that the entry at an index of a list is dropped. -/
def isDropped (list : EntryList) (index : Nat) : Finding → Bool
  | .droppedEntry l i => decide (l = list) && decide (index = i)
  | _ => false

/-- The entries of a list that are not reported as dropped. -/
def keptEntries (findings : List Finding) (list : EntryList) (kvs : List KeyValue) :
    List KeyValue :=
  unreported (fun i => findings.any (isDropped list i)) kvs

theorem exists_of_mem_dropped {list : EntryList} {kvs : List KeyValue} {x : Finding}
    (h : x ∈ dropped list kvs) : ∃ i, x = .droppedEntry list i := by
  obtain ⟨a, -, ha⟩ := List.mem_filterMap.mp h
  rw [Option.ite_none_left_eq_some] at ha
  exact ⟨a.2, (Option.some.inj ha.2).symm⟩

theorem any_isDropped_dropped {list : EntryList} {kvs : List KeyValue} {a : KeyValue × Nat}
    (ha : a ∈ kvs.zipIdx 1) : (dropped list kvs).any (isDropped list a.2) = !a.1.isValid := by
  have habout : ∀ (a : KeyValue × Nat) i x,
      (if a.1.isValid then none else some (Finding.droppedEntry list a.2)) = some x →
        isDropped list i x = decide (i = a.2) := by
    intro a i x hx
    rw [Option.ite_none_left_eq_some] at hx
    obtain rfl := Option.some.inj hx.2
    simp [isDropped]
  refine (any_about habout ha).trans ?_
  cases a.1.isValid <;> rfl

/-- Entries that are not reported are those that are valid. -/
theorem keptEntries_eq {findings : List Finding} {list : EntryList} {kvs : List KeyValue}
    (h : ∀ i, findings.any (isDropped list i) = (dropped list kvs).any (isDropped list i)) :
    keptEntries findings list kvs = Plan.validOnly kvs := by
  refine unreported_eq_filter fun a ha => ?_
  rw [h, any_isDropped_dropped ha]

/-! ## Regular expressions -/

/-- A finding that the assertion at an index is dropped. -/
def isDroppedRegex (index : Nat) : Finding → Bool
  | .incompleteRegex i => decide (index = i)
  | .unsupportedSubject i _ => decide (index = i)
  | _ => false

/-- The assertions on regular expressions that are not reported as dropped. -/
def keptRegexes (findings : List Finding) (rs : List RegexAssertion) : List RegexAssertion :=
  unreported (fun i => findings.any (isDroppedRegex i)) rs

theorem any_isText_subjectNames (v : Value) :
    subjectNames.any v.isText = (Subject.ofValue? v).isSome := by
  cases v with
  | text s =>
    rw [Subject.ofValue?, List.isSome_find?, subjectNames, List.any_map]
    simp [Value.isText, BEq.comm]
  | _ => rfl

/-- What is found about an assertion at an index, if its subject can be looked up. -/
def regexFinding? (a : RegexAssertion × Nat) : Option Finding :=
  if !a.1.isValid then some (.incompleteRegex a.2)
  else if (Subject.ofValue? a.1.subject).isSome then none
  else some (.unsupportedSubject a.2 a.1.subject)

theorem eq_of_isOneOf {texts : List String} {v : Value} {b : Bool} (h : isOneOf texts v = .ok b) :
    b = texts.any v.isText := by
  unfold isOneOf at h
  split at h
  · exact (Except.ok.inj h).symm
  · cases h

theorem eq_of_regexFinding {r : RegexAssertion} {index : Nat} {found : List Finding}
    (h : regexFinding index r = .ok found) : found = (regexFinding? (r, index)).toList := by
  unfold regexFinding at h
  unfold regexFinding?
  by_cases hvalid : r.isValid = true
  · simp only [hvalid, Bool.not_true, Bool.false_eq_true, if_false] at h ⊢
    obtain ⟨known, hknown, h⟩ := Except.bind_eq_ok.mp h
    obtain rfl := Except.ok.inj h
    rw [eq_of_isOneOf hknown, any_isText_subjectNames]
    split <;> rfl
  · simp only [hvalid, Bool.not_false, if_true] at h ⊢
    exact (Except.ok.inj h).symm

theorem eq_of_regexFindings {rs : List RegexAssertion} {first : Nat} {found : List Finding}
    (h : regexFindings first rs = .ok found) :
    found = (rs.zipIdx first).filterMap regexFinding? := by
  induction rs generalizing first found with
  | nil => exact (Except.ok.inj h).symm
  | cons r rs ih =>
    rw [regexFindings] at h
    obtain ⟨here, hhere, h⟩ := Except.bind_eq_ok.mp h
    obtain ⟨others, hothers, h⟩ := Except.bind_eq_ok.mp h
    obtain rfl := Except.ok.inj h
    rw [eq_of_regexFinding hhere, ih hothers, List.zipIdx_cons, List.filterMap_cons]
    cases regexFinding? (r, first) <;> rfl

theorem eq_of_regexFinding? {a : RegexAssertion × Nat} {x : Finding}
    (h : regexFinding? a = some x) :
    x = .incompleteRegex a.2 ∨ x = .unsupportedSubject a.2 a.1.subject := by
  unfold regexFinding? at h
  split at h
  · exact .inl (Option.some.inj h).symm
  · split at h
    · cases h
    · exact .inr (Option.some.inj h).symm

theorem any_isDroppedRegex {rs : List RegexAssertion} {found : List Finding}
    (h : regexFindings 1 rs = .ok found) {a : RegexAssertion × Nat} (ha : a ∈ rs.zipIdx 1) :
    found.any (isDroppedRegex a.2) =
      !(a.1.isValid && (Subject.ofValue? a.1.subject).isSome) := by
  have habout : ∀ a i x, regexFinding? a = some x → isDroppedRegex i x = decide (i = a.2) := by
    intro a i x hx
    obtain rfl | rfl := eq_of_regexFinding? hx <;> rfl
  rw [eq_of_regexFindings h, any_about habout ha, regexFinding?]
  cases a.1.isValid <;> cases (Subject.ofValue? a.1.subject).isSome <;> rfl

/-- Assertions that are not reported are those that are valid and look at a known part. -/
theorem keptRegexes_eq {findings found : List Finding} {rs : List RegexAssertion}
    (hfound : regexFindings 1 rs = .ok found)
    (h : ∀ i, findings.any (isDroppedRegex i) = found.any (isDroppedRegex i)) :
    keptRegexes findings rs =
      rs.filter fun a => a.isValid && (Subject.ofValue? a.subject).isSome := by
  refine unreported_eq_filter fun a ha => ?_
  rw [h, any_isDroppedRegex hfound ha]

/-! ## What a request sends -/

theorem payloadFindings_of_get {r : Request} (hget : r.isGet = .ok true) :
    payloadFindings r = .ok (dropped .parameters r.parameters) := by
  rw [payloadFindings, hget]
  rfl

/-- What is found about a body, apart from its type. -/
def sentFindings (r : Request) (body : Body) : List Finding :=
  if body.isKeyValue then
    dropped .body body.kvs ++ (if body.isValid then [] else [.noValidEntries])
  else if body.isValid then [] else [.emptyRawBody r.method]

theorem bodyTypeFindings_eq {type : Value} {found : List Finding}
    (h : bodyTypeFindings type = .ok found) : ∀ x ∈ found, x = .unknownBodyType type := by
  unfold bodyTypeFindings at h
  split at h
  · obtain rfl := Except.ok.inj h
    simp
  · obtain ⟨known, -, h⟩ := Except.bind_eq_ok.mp h
    obtain rfl := Except.ok.inj h
    cases known <;> simp

theorem bodyFindings_eq {r : Request} {body : Body} (hbody : r.body = some body)
    {found : List Finding} (h : bodyFindings r = .ok found) :
    ∃ type, (∀ x ∈ type, x = .unknownBodyType body.type) ∧
      found = type ++ sentFindings r body := by
  rw [bodyFindings, hbody] at h
  obtain ⟨type, htype, h⟩ := Except.bind_eq_ok.mp h
  refine ⟨type, bodyTypeFindings_eq htype, ?_⟩
  unfold sentFindings
  cases hkeys : body.isKeyValue with
  | true =>
    simp only [hkeys, if_true] at h
    rw [← Except.ok.inj h, if_pos rfl, List.append_assoc]
  | false =>
    simp only [hkeys, Bool.false_eq_true, if_false] at h
    rw [← Except.ok.inj h]
    rfl

/-- What is found about the parameters of a request that is not a GET. -/
def ignoredFindings (r : Request) : List Finding :=
  if r.parameters.isEmpty then [] else [.parametersIgnored r.method]

theorem payloadFindings_of_not_get {r : Request} {body : Body} (hbody : r.body = some body)
    (hget : r.isGet = .ok false) {found : List Finding} (h : payloadFindings r = .ok found) :
    ∃ type, (∀ x ∈ type, x = .unknownBodyType body.type) ∧
      found = ignoredFindings r ++ (type ++ sentFindings r body) := by
  rw [payloadFindings, hget] at h
  change (bodyFindings r >>= fun body => .ok (ignoredFindings r ++ body)) = .ok found at h
  obtain ⟨inBody, hinBody, h⟩ := Except.bind_eq_ok.mp h
  obtain ⟨type, htype, rfl⟩ := bodyFindings_eq hbody hinBody
  exact ⟨type, htype, (Except.ok.inj h).symm⟩

theorem isGet_of_payloadFindings {r : Request} {found : List Finding}
    (h : payloadFindings r = .ok found) : ∃ get, r.isGet = .ok get := by
  obtain ⟨get, hget, -⟩ := Except.bind_eq_ok.mp h
  exact ⟨get, hget⟩

/-! ## Assertions -/

theorem assertionFindings_eq {r : Request} {a : Assertions} (ha : r.assertions = some a)
    {found : List Finding} (h : assertionFindings r = .ok found) :
    ∃ regex, regexFindings 1 a.regex = .ok regex ∧
      found = regex ++ (if a.text.isEmpty then [] else [.textAssertions a.text.length]) ++
        durationFindings a.duration := by
  rw [assertionFindings, ha] at h
  obtain ⟨regex, hregex, h⟩ := Except.bind_eq_ok.mp h
  exact ⟨regex, hregex, (Except.ok.inj h).symm⟩

/-! ## Requests -/

/-- The last step of what is found about a URL, when its endpoint is known. -/
theorem addressFindings_adds (r : Request) (e : Endpoint) : Adds (do
    if e.isEmpty then return [.malformedUrl r.url]
    let get ← r.isGet
    return if !get && r.url.display.toList.contains '?' then [.queryAppended r.method] else [] :
      Logged (List Finding)) := by
  split
  · exact Adds.pure _
  · exact (Adds.lift _).bind fun _ => Adds.pure _

theorem urlFindings_adds (r : Request) : Adds (urlFindings r) := by
  unfold urlFindings
  split
  · exact Adds.pure _
  · exact (Endpoint.ofRequest_adds r).bind (addressFindings_adds r)

theorem requestFindings_adds (r : Request) : Adds (requestFindings r) :=
  (urlFindings_adds r).bind fun _ => (Adds.lift _).bind fun _ => (Adds.lift _).bind fun _ =>
    Adds.pure _

theorem urlFindings_category {r : Request} {found : List Finding}
    (h : (urlFindings r).result = .ok found) : ∀ x ∈ found, x.category = .url := by
  unfold urlFindings at h
  split at h
  · obtain rfl := Except.ok.inj h
    simp [Finding.category]
  · rw [result_bind (addressFindings_adds r)] at h
    obtain ⟨e, -, h⟩ := Except.bind_eq_ok.mp h
    split at h
    · obtain rfl := Except.ok.inj h
      simp [Finding.category]
    · rw [result_bind fun _ => Adds.pure _] at h
      obtain ⟨get, -, h⟩ := Except.bind_eq_ok.mp h
      obtain rfl := Except.ok.inj h
      split <;> simp [Finding.category]

/-- The parts of what is found about a request, which are told apart by their categories. -/
structure FoundParts (r : Request) (findings payload assertions : List Finding) : Prop where
  ofPayload : payloadFindings r = .ok payload
  ofAssertions : assertionFindings r = .ok assertions
  headers : ∀ x, x.category = .headers → (x ∈ findings ↔ x ∈ dropped .headers r.headers)
  payload : ∀ x, x.category = .parameters ∨ x.category = .body → (x ∈ findings ↔ x ∈ payload)
  assertions : ∀ x, x.category = .assertions → (x ∈ findings ↔ x ∈ assertions)

theorem sentFindings_category (r : Request) (body : Body) :
    ∀ x ∈ sentFindings r body, x.category = .body := by
  intro x hx
  unfold sentFindings at hx
  split at hx
  · obtain hx | hx := List.mem_append.mp hx
    · obtain ⟨i, rfl⟩ := exists_of_mem_dropped hx
      rfl
    · split at hx
      · simp at hx
      · obtain rfl := List.mem_singleton.mp hx
        rfl
  · split at hx
    · simp at hx
    · obtain rfl := List.mem_singleton.mp hx
      rfl

theorem ignoredFindings_category (r : Request) :
    ∀ x ∈ ignoredFindings r, x.category = .parameters := by
  intro x hx
  unfold ignoredFindings at hx
  split at hx
  · simp at hx
  · obtain rfl := List.mem_singleton.mp hx
    rfl

theorem payloadFindings_category {r : Request} (hbody : ∃ body, r.body = some body)
    {found : List Finding} (h : payloadFindings r = .ok found) :
    ∀ x ∈ found, x.category = .parameters ∨ x.category = .body := by
  obtain ⟨body, hbody⟩ := hbody
  obtain ⟨get, hget⟩ := isGet_of_payloadFindings h
  intro x hx
  cases get with
  | true =>
    rw [payloadFindings_of_get hget] at h
    obtain rfl := Except.ok.inj h
    obtain ⟨i, rfl⟩ := exists_of_mem_dropped hx
    exact .inl rfl
  | false =>
    obtain ⟨type, htype, rfl⟩ := payloadFindings_of_not_get hbody hget h
    simp only [List.mem_append] at hx
    obtain hx | hx | hx := hx
    · exact .inl (ignoredFindings_category r x hx)
    · obtain rfl := htype x hx
      exact .inr rfl
    · exact .inr (sentFindings_category r body x hx)

theorem assertionFindings_category {r : Request} {a : Assertions} (ha : r.assertions = some a)
    {found : List Finding} (h : assertionFindings r = .ok found) :
    ∀ x ∈ found, x.category = .assertions := by
  obtain ⟨regex, hregex, rfl⟩ := assertionFindings_eq ha h
  obtain rfl := eq_of_regexFindings hregex
  intro x hx
  simp only [List.mem_append] at hx
  obtain (hx | hx) | hx := hx
  · obtain ⟨b, -, hb⟩ := List.mem_filterMap.mp hx
    obtain rfl | rfl := eq_of_regexFinding? hb <;> rfl
  · split at hx
    · simp at hx
    · obtain rfl := List.mem_singleton.mp hx
      rfl
  · unfold durationFindings at hx
    split at hx
    · split at hx
      · obtain rfl := List.mem_singleton.mp hx
        rfl
      · simp at hx
    · simp at hx

theorem requestFindings_result {r : Request} {url payload assertions : List Finding}
    (hurl : (urlFindings r).result = .ok url) (hpayload : payloadFindings r = .ok payload)
    (hassertions : assertionFindings r = .ok assertions) :
    (requestFindings r).result =
      .ok (url ++ dropped .headers r.headers ++ payload ++ assertions) := by
  unfold requestFindings
  rw [result_bind_of_ok (fun _ => (Adds.lift _).bind fun _ => (Adds.lift _).bind fun _ =>
      Adds.pure _) hurl,
    result_bind_of_ok (fun _ => (Adds.lift _).bind fun _ => Adds.pure _)
      ((result_lift _).trans hpayload),
    result_bind_of_ok (fun _ => Adds.pure _) ((result_lift _).trans hassertions)]
  rfl

/-- If a request is checked, so is each of its parts, and their findings follow one another. -/
theorem exists_of_requestFindings {r : Request} {findings : List Finding}
    (h : (requestFindings r).result = .ok findings) :
    ∃ url payload assertions, (urlFindings r).result = .ok url ∧ payloadFindings r = .ok payload ∧
      assertionFindings r = .ok assertions ∧
      findings = url ++ dropped .headers r.headers ++ payload ++ assertions := by
  unfold requestFindings at h
  rw [result_bind fun _ => (Adds.lift _).bind fun _ => (Adds.lift _).bind fun _ => Adds.pure _] at h
  obtain ⟨url, hurl, h⟩ := Except.bind_eq_ok.mp h
  rw [result_bind fun _ => (Adds.lift _).bind fun _ => Adds.pure _, result_lift] at h
  obtain ⟨payload, hpayload, h⟩ := Except.bind_eq_ok.mp h
  rw [result_bind fun _ => Adds.pure _, result_lift] at h
  obtain ⟨assertions, hassertions, h⟩ := Except.bind_eq_ok.mp h
  exact ⟨url, payload, assertions, hurl, hpayload, hassertions, (Except.ok.inj h).symm⟩

theorem droppedHeaders_category (r : Request) :
    ∀ x ∈ dropped .headers r.headers, x.category = .headers := by
  intro x hx
  obtain ⟨i, rfl⟩ := exists_of_mem_dropped hx
  rfl

theorem foundParts {r : Request} (hbody : ∃ body, r.body = some body)
    (hassertions : ∃ a, r.assertions = some a) {findings : List Finding}
    (h : (requestFindings r).result = .ok findings) :
    ∃ payload assertions, FoundParts r findings payload assertions := by
  obtain ⟨url, payload, assertions, hurl, hpayload, hfound, rfl⟩ := exists_of_requestFindings h
  obtain ⟨a, ha⟩ := hassertions
  have hurls := urlFindings_category hurl
  have hheaders := droppedHeaders_category r
  have hpayloads := payloadFindings_category hbody hpayload
  have hasserted := assertionFindings_category ha hfound
  refine ⟨payload, assertions, hpayload, hfound, ?_, ?_, ?_⟩ <;>
  · intro x hx
    simp only [List.mem_append]
    grind

theorem any_eq_of_mem_iff {p : Finding → Bool} {xs ys : List Finding}
    (h : ∀ x, p x = true → (x ∈ xs ↔ x ∈ ys)) : xs.any p = ys.any p := by
  rw [Bool.eq_iff_iff, List.any_eq_true, List.any_eq_true]
  exact exists_congr fun x => and_congr_left (h x)

/-! ## Tests -/

/-- What is found about a request, if all of it can be looked up. -/
def foundIn (r : Request) : List Finding :=
  match (requestFindings r).result with
  | .ok findings => findings
  | .error _ => []

/-- The issues of a scenario with findings for each request. -/
def scenarioIssuesOf (findings : Request → List Finding) (s : Scenario) : List Issue :=
  let label := scenarioLabel s.name s.id
  (if s.requests.isEmpty then [⟨.noRequests, label⟩] else []) ++
    s.requests.flatMap fun r => (findings r).map (⟨·, requestLocation label r⟩)

theorem requestIssues_adds (label : Value) (r : Request) : Adds (requestIssues label r) :=
  (requestFindings_adds r).bind fun _ => Adds.pure _

theorem scenarioIssues_adds (s : Scenario) : Adds (scenarioIssues s) :=
  (Adds.mapM (requestIssues_adds _) _).bind fun _ => Adds.pure _

theorem requestIssues_result (label : Value) (r : Request) :
    (requestIssues label r).result =
      (requestFindings r).result.map fun findings =>
        findings.map (⟨·, requestLocation label r⟩) := by
  unfold requestIssues
  rw [result_bind fun _ => Adds.pure _]
  rfl

section Found

variable {findings : Request → List Finding}

theorem scenarioIssues_of_found {s : Scenario}
    (h : ∀ r ∈ s.requests, (requestFindings r).result = .ok (findings r)) :
    (scenarioIssues s).result = .ok (scenarioIssuesOf findings s) := by
  have hissues : ∀ r ∈ s.requests, (requestIssues (scenarioLabel s.name s.id) r).result =
      .ok ((findings r).map (⟨·, requestLocation (scenarioLabel s.name s.id) r⟩)) := by
    intro r hr
    rw [requestIssues_result, h r hr]
    rfl
  unfold scenarioIssues
  rw [result_bind fun _ => Adds.pure _, result_mapM (requestIssues_adds _),
    Except.mapM_of_forall hissues, scenarioIssuesOf, List.flatMap_def]
  rfl

/-- The report on a test whose requests are checked. -/
theorem check_of_found {t : Test}
    (h : ∀ s ∈ t.scenarios, ∀ r ∈ s.requests, (requestFindings r).result = .ok (findings r)) :
    (check t).result = .ok
      { path := none, testName := t.name,
        issues := t.scenarios.flatMap (scenarioIssuesOf findings) } := by
  unfold check
  rw [result_bind fun _ => Adds.pure _, result_mapM scenarioIssues_adds,
    Except.mapM_of_forall fun s hs => scenarioIssues_of_found (h s hs), List.flatMap_def]
  rfl

end Found

theorem result_foundIn {r : Request} {findings : List Finding}
    (h : (requestFindings r).result = .ok findings) :
    (requestFindings r).result = .ok (foundIn r) := by
  rw [foundIn, h]

/-- If a test is checked, so is each of its requests. -/
theorem found_of_check {t : Test} {report : Report} (h : (check t).result = .ok report) :
    ∀ s ∈ t.scenarios, ∀ r ∈ s.requests, (requestFindings r).result = .ok (foundIn r) := by
  intro s hs r hr
  unfold check at h
  rw [result_bind fun _ => Adds.pure _, result_mapM scenarioIssues_adds] at h
  obtain ⟨reports, hreports, -⟩ := Except.bind_eq_ok.mp h
  obtain ⟨issues, hissues⟩ := Except.exists_of_mapM hreports s hs
  unfold scenarioIssues at hissues
  rw [result_bind fun _ => Adds.pure _, result_mapM (requestIssues_adds _)] at hissues
  obtain ⟨found, hfound, -⟩ := Except.bind_eq_ok.mp hissues
  obtain ⟨issues, hissues⟩ := Except.exists_of_mapM hfound r hr
  rw [requestIssues_result] at hissues
  cases hrequest : (requestFindings r).result with
  | error fault => simp [hrequest, Except.map] at hissues
  | ok findings => exact hrequest ▸ result_foundIn hrequest

/-- The issues of a test are those found about its requests. -/
theorem issues_of_check {t : Test} {report : Report} (h : (check t).result = .ok report) :
    report.issues = t.scenarios.flatMap (scenarioIssuesOf foundIn) := by
  rw [check_of_found (found_of_check h)] at h
  rw [← Except.ok.inj h]

end LoadPlan.Lint
