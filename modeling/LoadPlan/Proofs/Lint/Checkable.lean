import LoadPlan.Proofs.Plan.Faults

/-!
# Tests that can be checked

A check compares the method of each request with GET and looks up types of bodies and subjects of
assertions among texts. So it comes to an end exactly if all methods can be compared and all that is
looked up can be; where it does not, a value was of the wrong kind (`check_succeeds`). What it finds
is never an error.
-/

namespace LoadPlan

/-- Faults of using a value of the wrong kind. -/
def Fault.IsMismatch : Fault → Prop
  | .wrongKind => True
  | .noMember .. => True
  | _ => False

namespace Lint

open Logged

/-! ## Computations that succeed under a condition -/

section Succeeds

variable {α β : Type} {P Q : Prop}

/-- A computation that succeeds exactly under a condition; where it fails, a value is of the wrong
kind. -/
def Succeeds (x : Except Fault α) (P : Prop) : Prop :=
  match x with
  | .ok _ => P
  | .error fault => ¬P ∧ fault.IsMismatch

theorem Succeeds.of_iff {x : Except Fault α} (hx : Succeeds x P) (h : P ↔ Q) : Succeeds x Q :=
  propext h ▸ hx

theorem Succeeds.exists_iff {x : Except Fault α} (hx : Succeeds x P) : (∃ a, x = .ok a) ↔ P := by
  cases x with
  | ok a => exact iff_of_true ⟨a, rfl⟩ hx
  | error fault => exact iff_of_false nofun hx.1

theorem Succeeds.isMismatch {x : Except Fault α} {fault : Fault} (hx : Succeeds x P)
    (h : x = .error fault) : fault.IsMismatch := by
  subst h
  exact hx.2

theorem Succeeds.ok (a : α) : Succeeds (.ok a) True :=
  trivial

theorem Succeeds.bind {x : Except Fault α} {f : α → Except Fault β} (hx : Succeeds x P)
    (hf : ∀ a, x = .ok a → Succeeds (f a) Q) : Succeeds (x >>= f) (P ∧ Q) := by
  cases x with
  | error fault => exact ⟨fun h => hx.1 h.1, hx.2⟩
  | ok a =>
    have hnext := hf a rfl
    change Succeeds (f a) (P ∧ Q)
    exact hnext.of_iff ⟨fun h => ⟨hx, h⟩, fun h => h.2⟩

theorem Succeeds.map {x : Except Fault α} (hx : Succeeds x P) (f : α → β) :
    Succeeds (x.map f) P := by
  cases x <;> exact hx

theorem Succeeds.mapM {f : α → Except Fault β} {P : α → Prop} {l : List α}
    (hf : ∀ a ∈ l, Succeeds (f a) (P a)) : Succeeds (l.mapM f) (∀ a ∈ l, P a) := by
  induction l with
  | nil => exact (Succeeds.ok []).of_iff (by simp)
  | cons a l ih =>
    obtain ⟨hhead, hrest⟩ := List.forall_mem_cons.mp hf
    rw [List.mapM_cons]
    refine (hhead.bind fun _ _ => (ih hrest).bind fun _ _ => .ok _).of_iff ?_
    rw [and_true, List.forall_mem_cons]

end Succeeds

/-! ## Requests -/

theorem isOneOf_succeeds (texts : List String) (v : Value) :
    Succeeds (isOneOf texts v) (isLookupKey v = true) := by
  unfold isOneOf
  split
  · assumption
  · rename_i h
    exact ⟨h, trivial⟩

theorem isGet_succeeds (r : Request) : Succeeds r.isGet (¬ r.HasWrongMethod) := by
  cases h : r.isGet with
  | ok get =>
    intro hwrong
    rw [Request.isGet_of_wrongMethod hwrong] at h
    cases h
  | error fault =>
    obtain ⟨hwrong, rfl⟩ := Request.wrongMethod_of_isGet h
    exact ⟨not_not_intro hwrong, trivial⟩

theorem bodyTypeFindings_succeeds (type : Value) :
    Succeeds (bodyTypeFindings type) (isLookupKey type = true) := by
  unfold bodyTypeFindings
  split
  · rename_i hnull
    cases type with
    | null => exact rfl
    | _ => cases hnull
  · exact ((isOneOf_succeeds _ type).bind fun _ _ => .ok _).of_iff (by simp)

theorem bodyFindings_succeeds (r : Request) :
    Succeeds (bodyFindings r) (∀ body, r.body = some body → isLookupKey body.type = true) := by
  unfold bodyFindings
  cases r.body with
  | none => exact nofun
  | some body =>
    refine ((bodyTypeFindings_succeeds body.type).bind (Q := True) fun found _ => ?_).of_iff ?_
    · split <;> exact trivial
    · simp

theorem regexFinding_succeeds (index : Nat) (regex : RegexAssertion) :
    Succeeds (regexFinding index regex)
      (regex.isValid = true → isLookupKey regex.subject = true) := by
  unfold regexFinding
  cases regex.isValid with
  | false => exact nofun
  | true => exact ((isOneOf_succeeds _ regex.subject).bind fun _ _ => .ok _).of_iff (by simp)

theorem regexFindings_succeeds (index : Nat) (rs : List RegexAssertion) :
    Succeeds (regexFindings index rs)
      (∀ regex ∈ rs, regex.isValid = true → isLookupKey regex.subject = true) := by
  induction rs generalizing index with
  | nil => exact nofun
  | cons regex rs ih =>
    refine ((regexFinding_succeeds index regex).bind fun _ _ =>
      (ih (index + 1)).bind fun _ _ => .ok _).of_iff ?_
    rw [and_true, List.forall_mem_cons]

theorem assertionFindings_succeeds (r : Request) :
    Succeeds (assertionFindings r) (∀ a, r.assertions = some a →
      ∀ regex ∈ a.regex, regex.isValid = true → isLookupKey regex.subject = true) := by
  unfold assertionFindings
  cases r.assertions with
  | none => exact nofun
  | some a => exact ((regexFindings_succeeds 1 a.regex).bind fun _ _ => .ok _).of_iff (by simp)

theorem payloadFindings_succeeds (r : Request) :
    Succeeds (payloadFindings r) (¬ r.HasWrongMethod ∧
      (r.isGet = .ok false → ∀ body, r.body = some body → isLookupKey body.type = true)) := by
  refine (isGet_succeeds r).bind fun get hget => ?_
  rw [hget]
  cases get with
  | true => exact nofun
  | false => exact ((bodyFindings_succeeds r).bind fun _ _ => .ok _).of_iff (by simp)

/-- A request that can be checked: its method can be compared with GET, and the type of a body that
is sent and the subjects of valid assertions can be looked up among texts. -/
structure IsCheckable (r : Request) : Prop where
  method : ¬ r.HasWrongMethod
  bodyType : r.isGet = .ok false → ∀ body, r.body = some body → isLookupKey body.type = true
  subjects : ∀ a, r.assertions = some a → ∀ regex ∈ a.regex, regex.isValid = true →
    isLookupKey regex.subject = true

theorem exists_urlFindings {r : Request} {get : Bool} (hget : r.isGet = .ok get) :
    ∃ found, (urlFindings r).result = .ok found := by
  unfold urlFindings
  split
  · exact ⟨_, rfl⟩
  · rw [result_bind_of_ok (addressFindings_adds r) (Endpoint.ofRequest_result hget)]
    split
    · exact ⟨_, rfl⟩
    · rw [result_bind_of_ok (fun _ => Adds.pure _) ((result_lift _).trans hget)]
      exact ⟨_, rfl⟩

/-- Where nothing is found about a URL, the method cannot be compared. -/
theorem isGet_of_urlFindings {r : Request} {fault : Fault}
    (h : (urlFindings r).result = .error fault) : r.isGet = .error fault := by
  cases hget : r.isGet with
  | ok get =>
    obtain ⟨found, hfound⟩ := exists_urlFindings hget
    rw [hfound] at h
    cases h
  | error cause =>
    unfold urlFindings at h
    split at h
    · cases h
    rw [result_bind (addressFindings_adds r)] at h
    obtain h | ⟨e, -, h⟩ := Except.bind_eq_error.mp h
    · obtain hfault | ⟨e, hok⟩ := Endpoint.ofRequest_result_of_error hget
      · rw [hfault] at h
        exact congrArg Except.error (Except.error.inj h)
      · rw [hok] at h
        cases h
    · split at h
      · cases h
      · rw [result_bind fun _ => Adds.pure _, result_lift, hget] at h
        exact congrArg Except.error (Except.error.inj h)

theorem urlFindings_succeeds (r : Request) :
    Succeeds (urlFindings r).result (∃ found, (urlFindings r).result = .ok found) := by
  cases hresult : (urlFindings r).result with
  | ok found => exact ⟨found, rfl⟩
  | error fault => exact ⟨nofun, (isGet_succeeds r).isMismatch (isGet_of_urlFindings hresult)⟩

theorem requestFindings_succeeds (r : Request) :
    Succeeds (requestFindings r).result (IsCheckable r) := by
  unfold requestFindings
  rw [result_bind fun _ => (Adds.lift _).bind fun _ => (Adds.lift _).bind fun _ => Adds.pure _]
  simp only [result_bind fun _ => (Adds.lift (assertionFindings r)).bind fun _ => Adds.pure _,
    result_bind fun _ => Adds.pure _, result_lift]
  refine ((urlFindings_succeeds r).bind fun _ _ => (payloadFindings_succeeds r).bind fun _ _ =>
    (assertionFindings_succeeds r).bind fun _ _ => .ok _).of_iff ?_
  constructor
  · exact fun ⟨_, ⟨hmethod, htype⟩, hsubjects, _⟩ => ⟨hmethod, htype, hsubjects⟩
  · intro h
    obtain ⟨get, hget⟩ := (isGet_succeeds r).exists_iff.mpr h.method
    exact ⟨exists_urlFindings hget, ⟨h.method, h.bodyType⟩, h.subjects, trivial⟩

/-! ## Tests -/

theorem scenarioIssues_succeeds (s : Scenario) :
    Succeeds (scenarioIssues s).result (∀ r ∈ s.requests, IsCheckable r) := by
  unfold scenarioIssues
  rw [result_bind fun _ => Adds.pure _, result_mapM (requestIssues_adds _)]
  have hrequests (r : Request) :
      Succeeds (requestIssues (scenarioLabel s.name s.id) r).result (IsCheckable r) := by
    rw [requestIssues_result]
    exact (requestFindings_succeeds r).map _
  exact ((Succeeds.mapM fun r _ => hrequests r).bind fun _ _ => .ok _).of_iff (iff_of_eq (and_true _))

theorem check_succeeds (t : Test) :
    Succeeds (check t).result (∀ r ∈ t.requests, IsCheckable r) := by
  unfold check
  rw [result_bind fun _ => Adds.pure _, result_mapM scenarioIssues_adds]
  refine ((Succeeds.mapM fun s _ => scenarioIssues_succeeds s).bind fun _ _ => .ok _).of_iff ?_
  rw [and_true]
  constructor
  · intro h r hr
    obtain ⟨s, hs, hr⟩ := Plan.mem_requests.mp hr
    exact h s hs r hr
  · exact fun h s hs r hr => h r (Plan.mem_requests.mpr ⟨s, hs, hr⟩)

theorem check_adds (t : Test) : Adds (check t) :=
  (Adds.mapM scenarioIssues_adds _).bind fun _ => Adds.pure _

/-! ## What is found -/

/-- Only findings about a file as a whole are errors. -/
theorem severity_ne_error {x : Finding} (hfile : x.category ≠ .file) (hshape : x.category ≠ .shape) :
    x.severity ≠ .error := by
  cases x with
  | unreadable => exact absurd rfl hfile
  | misshapen => exact absurd rfl hshape
  | _ => nofun

theorem requestFindings_severity {r : Request} (hbuilt : r.Built) {findings : List Finding}
    (h : (requestFindings r).result = .ok findings) : ∀ x ∈ findings, x.severity ≠ .error := by
  unfold requestFindings at h
  rw [result_bind fun _ => (Adds.lift _).bind fun _ => (Adds.lift _).bind fun _ => Adds.pure _] at h
  obtain ⟨url, hurl, h⟩ := Except.bind_eq_ok.mp h
  rw [result_bind fun _ => (Adds.lift _).bind fun _ => Adds.pure _, result_lift] at h
  obtain ⟨payload, hpayload, h⟩ := Except.bind_eq_ok.mp h
  rw [result_bind fun _ => Adds.pure _, result_lift] at h
  obtain ⟨assertions, hassertions, h⟩ := Except.bind_eq_ok.mp h
  obtain rfl := Except.ok.inj h
  obtain ⟨a, duration, ha, -⟩ := hbuilt.assertions
  intro x hx
  simp only [List.mem_append] at hx
  obtain ((hx | hx) | hx) | hx := hx
  · have hcategory := urlFindings_category hurl x hx
    exact severity_ne_error (by simp [hcategory]) (by simp [hcategory])
  · obtain ⟨i, rfl⟩ := exists_of_mem_dropped hx
    nofun
  · obtain hcategory | hcategory := payloadFindings_category hbuilt.body hpayload x hx <;>
      exact severity_ne_error (by simp [hcategory]) (by simp [hcategory])
  · have hcategory := assertionFindings_category ha hassertions x hx
    exact severity_ne_error (by simp [hcategory]) (by simp [hcategory])

/-- A test that was built from options has no errors. -/
theorem isValid_of_check {t : Test} (hbuilt : ∀ s ∈ t.scenarios, ∀ r ∈ s.requests, r.Built)
    {report : Report} (h : (check t).result = .ok report) : report.isValid = true := by
  have hfound := found_of_check h
  have hissues : ∀ issue ∈ report.issues, issue.finding.severity ≠ .error := by
    rw [issues_of_check h]
    intro issue hissue
    obtain ⟨s, hs, hissue⟩ := List.mem_flatMap.mp hissue
    obtain hissue | hissue := List.mem_append.mp hissue
    · split at hissue
      · obtain rfl := List.mem_singleton.mp hissue
        nofun
      · cases hissue
    · obtain ⟨r, hr, hissue⟩ := List.mem_flatMap.mp hissue
      obtain ⟨x, hx, rfl⟩ := List.mem_map.mp hissue
      exact requestFindings_severity (hbuilt s hs r hr) (hfound s hs r hr) x hx
  simpa [Report.isValid] using hissues

end Lint

end LoadPlan
