import LoadPlan.Proofs.Plan.Compiled
import LoadPlan.Proofs.Scenario.Described
import Mathlib.Data.List.Basic

/-!
# What a compilation warns of

A compilation warns of each URL that is given but gives no address, and of each valid assertion that
looks at no known part of a response. Request by request, these are all its warnings about a test
that was built from options: the requests of such a test have methods and bodies.
-/

namespace LoadPlan

/-! ## Notices of computations one after another -/

namespace Logged

variable {α β : Type}

/-- The notices of a computation, without its result. -/
def notices (x : Logged α) : List Notice :=
  x.outcome.2

theorem outcome_eq (x : Logged α) : x.outcome = (x.result, x.notices) :=
  rfl

@[simp]
theorem notices_lift (x : Except Fault α) : notices (liftM x : Logged α) = [] :=
  congrArg Prod.snd (outcome_lift x)

theorem notices_bind {x : Logged α} {f : α → Logged β} (hf : ∀ a, Adds (f a)) {a : α}
    (hx : x.result = .ok a) : (x >>= f).notices = x.notices ++ (f a).notices := by
  rw [notices, outcome_bind hf, outcome_eq x, hx]
  rfl

/-- The notices of a list whose members have results are those of its members, in order. -/
theorem notices_mapM {f : α → Logged β} (hf : ∀ a, Adds (f a)) {l : List α} {g : α → β}
    (h : ∀ a ∈ l, (f a).result = .ok (g a)) :
    (l.mapM f).notices = l.flatMap fun a => (f a).notices := by
  induction l with
  | nil => rfl
  | cons a l ih =>
    obtain ⟨hhead, htail⟩ := List.forall_mem_cons.mp h
    have hlist : (l.mapM f).result = .ok (l.map g) :=
      (result_mapM hf l).trans (Except.mapM_of_forall htail)
    have hcons b bs : Adds (pure (b :: bs) : Logged (List β)) := Adds.pure _
    rw [List.mapM_cons, notices_bind (fun b => (Adds.mapM hf l).bind (hcons b)) hhead,
      notices_bind (hcons _) hlist, ih htail, List.flatMap_cons]
    exact congrArg _ (List.append_nil _)

end Logged

namespace Plan

open Logged

/-! ## Causes -/

/-- Why a compilation warns about a request. -/
inductive Cause where
  | url (problem : Url.Problem)
  /-- The subject of the assertion at an index, from 1. -/
  | subject (index : Nat) (name : Value)

/-- The warning about a request. -/
def Cause.notice (r : Request) : Cause → Notice
  | url problem => .malformedUrl r.url r.name problem
  | subject _ name => .unsupportedSubject name r.name

/-- The cause that the URL of a request is. -/
def urlCauses (r : Request) : List Cause :=
  if r.url.isTruthy then
    match Url.absolute r.url.display with
    | .error problem => [.url problem]
    | .ok _ => []
  else []

/-- The cause that an assertion at an index is, if it is valid and its subject is not known. -/
def subjectCause? (a : RegexAssertion × Nat) : Option Cause :=
  if a.1.isValid && (Subject.ofValue? a.1.subject).isNone then some (.subject a.2 a.1.subject)
  else none

/-- The causes that the assertions of a request are. -/
def subjectCauses (r : Request) : List Cause :=
  match r.assertions with
  | none => []
  | some a => (a.regex.zipIdx 1).filterMap subjectCause?

/-- The causes of warnings about a request. -/
def causes (r : Request) : List Cause :=
  urlCauses r ++ subjectCauses r

/-- A cause in a request of a scenario. -/
structure Concern where
  scenario : Scenario
  request : Request
  cause : Cause

/-- The warning of a concern. -/
def Concern.notice (c : Concern) : Notice :=
  c.cause.notice c.request

/-- The concerns of a scenario, request by request. -/
def concernsIn (s : Scenario) : List Concern :=
  s.requests.flatMap fun r => (causes r).map fun cause => ⟨s, r, cause⟩

/-- The concerns of a test, scenario by scenario. -/
def concerns (t : Test) : List Concern :=
  t.scenarios.flatMap concernsIn

theorem notice_level (c : Concern) : c.notice.level = .warning := by
  obtain ⟨_, _, _ | _⟩ := c <;> rfl

/-! ## Requests -/

theorem notices_ofRequest {r : Request} (h : HasMethod r) :
    (Endpoint.ofRequest r).notices = (urlCauses r).map (Cause.notice r) := by
  unfold Endpoint.ofRequest urlCauses
  by_cases hurl : r.url.isTruthy = true
  · rw [if_neg (by simp [hurl]), if_pos hurl]
    cases Url.absolute r.url.display with
    | error problem => rfl
    | ok parts =>
      rw [HasMethod] at h
      simp only [h]
      rfl
  · rw [if_pos (by simp [hurl]), if_neg hurl]
    rfl

/-- There is nothing to warn of in what a request sends that has a method and a body. -/
theorem notices_payloadOf {r : Request} (hbuilt : r.Built) (h : HasMethod r) :
    (payloadOf r).notices = [] := by
  obtain ⟨body, hbody⟩ := hbuilt.body
  unfold payloadOf
  rw [if_neg (by simp [hbuilt.method]), h]
  cases usesGet r with
  | true => cases hempty : (validOnly r.parameters).isEmpty <;> simp [hempty] <;> rfl
  | false => cases hkeys : body.isKeyValue <;> simp [hbody, hkeys] <;> rfl

theorem notices_regexAssertions (r : Request) (rs : List RegexAssertion) (first : Nat) :
    (regexAssertions r.name rs).notices =
      ((rs.zipIdx first).filterMap subjectCause?).map (Cause.notice r) := by
  induction rs generalizing first with
  | nil => rfl
  | cons a rs ih =>
    rw [regexAssertions, List.zipIdx_cons]
    by_cases hvalid : a.isValid = true
    · rw [if_neg (by simp [hvalid])]
      cases hsubject : Subject.ofValue? a.subject with
      | none =>
        rw [List.filterMap_cons_some (by simp [subjectCause?, hvalid, hsubject]; rfl),
          List.map_cons, ← ih]
        exact notices_bind (fun _ => regexAssertions_adds r.name rs) rfl
      | some subject =>
        rw [List.filterMap_cons_none (by simp [subjectCause?, hvalid, hsubject]), ← ih,
          notices_bind (fun _ => Adds.pure _) (regexAssertions_result r.name rs)]
        exact List.append_nil _
    · rw [if_pos (by simp [hvalid]),
        List.filterMap_cons_none (by simp [subjectCause?, hvalid]), ← ih]

theorem notices_assertionsOf (r : Request) :
    (assertionsOf r).notices = (subjectCauses r).map (Cause.notice r) := by
  unfold assertionsOf subjectCauses
  cases r.assertions with
  | none => rfl
  | some a =>
    rw [← notices_regexAssertions]
    exact (notices_bind (fun _ => Adds.pure _) (regexAssertions_result r.name a.regex)).trans
      (List.append_nil _)

theorem notices_compileRequest {r : Request} (hbuilt : r.Built) (h : HasMethod r) :
    (compileRequest r).notices = (causes r).map (Cause.notice r) := by
  have hlast := assertions_step_adds r
  have hpayload bare := (payloadOf_adds r).bind (hlast bare)
  have hbare e := (Adds.lift (samplerOf r.name e)).bind hpayload
  have hsent : (payloadOf r).result = .ok (payload r (usesGet r)) := by
    rw [payloadOf_result, h]
    rfl
  unfold compileRequest
  rw [notices_bind hbare (Endpoint.ofRequest_result h), notices_bind hpayload
    ((result_lift _).trans (samplerOf_eq r.name _)), notices_bind (hlast _) hsent,
    notices_bind (fun _ => Adds.pure _) (assertionsOf_result r), notices_ofRequest h, notices_lift,
    notices_payloadOf hbuilt h, notices_assertionsOf, causes, List.map_append]
  exact congrArg _ (List.append_nil _)

/-! ## Tests -/

section Tests

variable (settings : Settings)

theorem notices_compileScenario {s : Scenario} (hbuilt : ∀ r ∈ s.requests, r.Built)
    (h : ∀ r ∈ s.requests, HasMethod r) :
    (compileScenario settings s).notices = (concernsIn s).map Concern.notice := by
  have hresults r (hr : r ∈ s.requests) := compileRequest_result_of_hasMethod (h r hr)
  have hsamplers : (s.requests.mapM compileRequest).result = .ok (s.requests.map requestPart) :=
    (result_mapM compileRequest_adds _).trans (Except.mapM_of_forall hresults)
  have hconcern (r : Request) :
      (Concern.notice ∘ fun cause => ⟨s, r, cause⟩) = Cause.notice r := rfl
  unfold compileScenario
  rw [notices_bind (fun _ => Adds.pure _) hsamplers, notices_mapM compileRequest_adds
    hresults, concernsIn, List.map_flatMap]
  simp only [List.map_map, hconcern]
  rw [List.flatMap_congr fun r hr => notices_compileRequest (hbuilt r hr) (h r hr)]
  exact List.append_nil _

/-- The notices of a compilation are its warnings, followed by what the plan holds. -/
theorem notices_compile {t : Test} (hbuilt : ∀ s ∈ t.scenarios, ∀ r ∈ s.requests, r.Built)
    (h : ∀ s ∈ t.scenarios, ∀ r ∈ s.requests, HasMethod r) :
    (compile settings t).notices = (concerns t).map Concern.notice ++
      [.compiled t.name (compiledTest settings t).stats] := by
  have hresults s (hs : s ∈ t.scenarios) :=
    compileScenario_result_of_hasMethod settings (h s hs)
  have hgroups : (t.scenarios.mapM (compileScenario settings)).result =
      .ok (t.scenarios.map (scenarioPart settings)) :=
    (result_mapM (compileScenario_adds settings) _).trans (Except.mapM_of_forall hresults)
  unfold compile
  rw [notices_bind (fun _ => planOf_adds settings _ _) hgroups, notices_mapM
    (compileScenario_adds settings) hresults, concerns, List.map_flatMap,
    List.flatMap_congr fun s hs => notices_compileScenario settings (hbuilt s hs) (h s hs)]
  rfl

/-- The warnings of a compilation are those of the concerns of its test, in order. -/
theorem warnings_of_toXml {t : Test} (hbuilt : ∀ s ∈ t.scenarios, ∀ r ∈ s.requests, r.Built)
    {xml : String} {notices : List Notice} (h : (toXml settings t).outcome = (.ok xml, notices)) :
    notices.filter (fun n => n.level == .warning) = (concerns t).map Concern.notice := by
  obtain ⟨plan, hplan, -⟩ := exists_compile_of_toXml settings h
  have hmethods := hasMethod_of_compile settings (result_of_outcome hplan)
  have hall : notices = (compile settings t).notices := (congrArg Prod.snd hplan).symm
  have hwarned : ∀ n ∈ (concerns t).map Concern.notice, (n.level == .warning) = true := by
    simp [notice_level]
  rw [hall, notices_compile settings hbuilt hmethods, List.filter_append,
    List.filter_eq_self.mpr hwarned]
  exact List.append_nil _

end Tests

end Plan

end LoadPlan
