import LoadPlan.Proofs.Lint.Silence

/-!
# Warnings about URLs

A check warns about the URL of a request if it gives no address, whether there is none or it cannot
be taken as one; a query behind the path is only an information. In a report there is one such
warning for each of these requests, where the request is, and none for any other request.
-/

namespace LoadPlan.Lint

open Logged

/-- A finding that warns about a URL. -/
def Finding.warnsOfUrl (x : Finding) : Bool :=
  x.category == .url && x.severity == .warning

/-- Whether a check warns about the URL of a request. -/
def warnsOfUrl (r : Request) : Bool :=
  match (urlFindings r).result with
  | .ok findings => findings.any Finding.warnsOfUrl
  | .error _ => false

/-- The places at which a report warns about a URL. -/
def urlWarnings (report : Report) : List Value :=
  (report.issues.filter (·.finding.warnsOfUrl)).map (·.location)

/-- The places of requests of a test, in order. -/
def locationsOf (which : Request → Bool) (t : Test) : List Value :=
  t.scenarios.flatMap fun s =>
    (s.requests.filter which).map (requestLocation (scenarioLabel s.name s.id))

/-! ## Requests -/

/-- There is one warning about a URL that gives no address, and none about another. -/
theorem length_filter_urlFindingsOf (r : Request) (get : Bool) :
    ((urlFindingsOf r get).filter Finding.warnsOfUrl).length =
      if (r.address? get).isNone then 1 else 0 := by
  unfold urlFindingsOf
  by_cases hurl : r.url.isTruthy = true
  · rw [if_neg (by simp [hurl])]
    by_cases haddress : (r.address? get).isNone = true
    · rw [if_pos haddress, if_pos haddress]
      rfl
    · rw [if_neg haddress, if_neg haddress]
      split <;> rfl
  · have hnone : (r.address? get).isNone = true := by simp [Request.address?, hurl]
    rw [if_pos (by simp [hurl]), if_pos hnone]
    rfl

/-- A check warns about the URL of a request exactly if it gives no address. -/
theorem warnsOfUrl_eq {r : Request} {get : Bool} (hget : r.isGet = .ok get) :
    warnsOfUrl r = (r.address? get).isNone := by
  have hany (xs : List Finding) : xs.any Finding.warnsOfUrl =
      decide (0 < (xs.filter Finding.warnsOfUrl).length) := by
    rw [Bool.eq_iff_iff, List.any_eq_true, decide_eq_true_eq, List.length_pos_iff_exists_mem]
    simp
  rw [warnsOfUrl, urlFindings_result hget]
  dsimp only
  rw [hany, length_filter_urlFindingsOf]
  cases (r.address? get).isNone <;> rfl

theorem filter_of_category {c : Category} (hc : c ≠ .url) {xs : List Finding}
    (h : ∀ x ∈ xs, x.category = c) : xs.filter Finding.warnsOfUrl = [] := by
  rw [List.filter_eq_nil_iff]
  intro x hx
  simp [Finding.warnsOfUrl, h x hx, hc]

/-- Among all that is found about a request, the warnings about its URL come from the URL. -/
theorem length_filter_requestFindings {r : Request} (hbuilt : r.Built) {findings : List Finding}
    (h : (requestFindings r).result = .ok findings) :
    (findings.filter Finding.warnsOfUrl).length = if warnsOfUrl r then 1 else 0 := by
  obtain ⟨url, payload, assertions, hurl, hpayload, hassertions, rfl⟩ :=
    exists_of_requestFindings h
  obtain ⟨get, hget⟩ := isGet_of_payloadFindings hpayload
  obtain ⟨a, -, ha, -⟩ := hbuilt.assertions
  have hfound : url = urlFindingsOf r get :=
    Except.ok.inj (hurl.symm.trans (urlFindings_result hget))
  have hsent : payload.filter Finding.warnsOfUrl = [] := by
    rw [List.filter_eq_nil_iff]
    intro x hx
    rcases payloadFindings_category hbuilt.body hpayload x hx with hx | hx <;>
      simp [Finding.warnsOfUrl, hx]
  rw [List.filter_append, List.filter_append, List.filter_append,
    filter_of_category (by decide) (droppedHeaders_category r), hsent,
    filter_of_category (by decide) (assertionFindings_category ha hassertions), List.append_nil,
    List.append_nil, List.append_nil, hfound, length_filter_urlFindingsOf, warnsOfUrl_eq hget]

/-! ## Reports -/

theorem urlWarnings_of_request {r : Request} (hbuilt : r.Built)
    (h : (requestFindings r).result = .ok (foundIn r)) (location : Value) :
    (((foundIn r).map fun x => (⟨x, location⟩ : Issue)).filter (·.finding.warnsOfUrl)).map
        (·.location) = if warnsOfUrl r then [location] else [] := by
  have hlocated : ((fun i : Issue => i.finding.warnsOfUrl) ∘ fun x => ⟨x, location⟩) =
      Finding.warnsOfUrl := rfl
  have hconst : ((fun i : Issue => i.location) ∘ fun x => ⟨x, location⟩) =
      fun _ : Finding => location := rfl
  rw [List.filter_map, List.map_map, hlocated, hconst, List.map_const',
    length_filter_requestFindings hbuilt h]
  split <;> rfl

/-- A report warns about URLs exactly where requests have none that gives an address. -/
theorem urlWarnings_of_check {t : Test} (hbuilt : ∀ s ∈ t.scenarios, ∀ r ∈ s.requests, r.Built)
    {report : Report} (h : (check t).result = .ok report) :
    urlWarnings report = locationsOf warnsOfUrl t := by
  unfold urlWarnings locationsOf
  rw [issues_of_check h, List.filter_flatMap, List.map_flatMap]
  apply List.flatMap_congr
  intro s hs
  have hempty : (if s.requests.isEmpty then
      [(⟨.noRequests, scenarioLabel s.name s.id⟩ : Issue)] else []).filter
        (·.finding.warnsOfUrl) = [] := by
    split <;> rfl
  unfold scenarioIssuesOf
  dsimp only
  rw [List.filter_append, hempty, List.nil_append, List.filter_flatMap, List.map_flatMap,
    List.flatMap_congr fun r hr =>
      urlWarnings_of_request (hbuilt s hs r hr) (found_of_check h s hs r hr) _]
  generalize s.requests = rs
  induction rs with
  | nil => rfl
  | cons r rs ih =>
    rw [List.flatMap_cons, ih, List.filter_cons]
    split <;> rfl

end LoadPlan.Lint
