import LoadPlan.Proofs.Lint.Findings
import LoadPlan.Proofs.Plan.ReadBack

/-!
# When a test has no plan

Only one thing keeps a test from being compiled and rendered: a request whose method is given and is
no text, so that it cannot be compared with GET. Whatever else is wrong with a test is left out of
its plan. A test that can be checked has a plan, since a check compares the methods as well.
-/

namespace LoadPlan

/-- A request whose method is given but is no text. -/
structure Request.HasWrongMethod (r : Request) : Prop where
  given : r.method.isTruthy = true
  noText : ∀ s, r.method ≠ .text s

theorem Request.isGet_of_wrongMethod {r : Request} (h : r.HasWrongMethod) :
    r.isGet = .error (.noMember r.method.kind "upper") := by
  unfold Request.isGet LoadPlan.isGet
  split
  · rename_i s hs
    exact absurd hs (h.noText s)
  · rw [if_pos h.given]

theorem Request.wrongMethod_of_isGet {r : Request} {fault : Fault} (h : r.isGet = .error fault) :
    r.HasWrongMethod ∧ fault = .noMember r.method.kind "upper" := by
  have hwrong : r.HasWrongMethod := by
    unfold Request.isGet LoadPlan.isGet at h
    split at h
    · cases h
    · rename_i hnoText
      split at h
      · rename_i hgiven
        exact ⟨hgiven, hnoText⟩
      · cases h
  rw [isGet_of_wrongMethod hwrong] at h
  exact ⟨hwrong, (Except.error.inj h).symm⟩

namespace Plan

open Logged

theorem mem_requests {t : Test} {r : Request} :
    r ∈ t.requests ↔ ∃ s ∈ t.scenarios, r ∈ s.requests :=
  List.mem_flatMap

/-! ## The fault of a compilation -/

section Fault

variable {settings : Settings} {fault : Fault}

theorem isGet_of_compileRequest {r : Request} (h : (compileRequest r).result = .error fault) :
    r.isGet = .error fault := by
  rw [compileRequest_result] at h
  exact Except.map_eq_error.mp h

theorem isGet_of_compileScenario {s : Scenario}
    (h : (compileScenario settings s).result = .error fault) :
    ∃ r ∈ s.requests, r.isGet = .error fault := by
  rw [compileScenario_result] at h
  obtain ⟨r, hr, hfault⟩ := Except.exists_of_mapM_error (Except.map_eq_error.mp h)
  exact ⟨r, hr, isGet_of_compileRequest hfault⟩

/-- The fault of a compilation is that of comparing the method of a request. -/
theorem isGet_of_compile {t : Test} (h : (compile settings t).result = .error fault) :
    ∃ r ∈ t.requests, r.isGet = .error fault := by
  rw [compile_result] at h
  obtain h | ⟨groups, -, h⟩ := Except.bind_eq_error.mp h
  · obtain ⟨s, hs, hfault⟩ := Except.exists_of_mapM_error h
    obtain ⟨r, hr, hget⟩ := isGet_of_compileScenario hfault
    exact ⟨r, mem_requests.mpr ⟨s, hs, hr⟩, hget⟩
  · cases h

/-- What is compiled is rendered. -/
theorem exists_render {t : Test} {plan : Counted Document}
    (h : (compile settings t).result = .ok plan) : ∃ xml, plan.part.render = .ok xml := by
  obtain rfl := eq_compiledTest settings h
  obtain ⟨xml, -, hrender, -⟩ := (compiledTest_sound settings t).read_render
  exact ⟨xml, hrender⟩

theorem wrongMethod_of_toXml {t : Test} (h : (toXml settings t).result = .error fault) :
    ∃ r ∈ t.requests, r.HasWrongMethod ∧ fault = .noMember r.method.kind "upper" := by
  rw [toXml_result] at h
  obtain h | ⟨plan, hplan, h⟩ := Except.bind_eq_error.mp h
  · obtain ⟨r, hr, hget⟩ := isGet_of_compile h
    exact ⟨r, hr, Request.wrongMethod_of_isGet hget⟩
  · obtain ⟨xml, hxml⟩ := exists_render hplan
    rw [hxml] at h
    cases h

end Fault

/-! ## Tests that are checked -/

/-- A check compares the method of each request with GET. -/
theorem isGet_of_requestFindings {r : Request} {findings : List Lint.Finding}
    (h : (Lint.requestFindings r).result = .ok findings) : ∃ get, r.isGet = .ok get := by
  unfold Lint.requestFindings at h
  rw [result_bind fun _ => (Adds.lift _).bind fun _ => (Adds.lift _).bind fun _ => Adds.pure _] at h
  obtain ⟨url, -, h⟩ := Except.bind_eq_ok.mp h
  rw [result_bind fun _ => (Adds.lift _).bind fun _ => Adds.pure _, result_lift] at h
  obtain ⟨payload, hpayload, -⟩ := Except.bind_eq_ok.mp h
  exact Lint.isGet_of_payloadFindings hpayload

theorem hasMethod_of_check {t : Test} {report : Lint.Report}
    (h : (Lint.check t).result = .ok report) : ∀ s ∈ t.scenarios, ∀ r ∈ s.requests, HasMethod r := by
  intro s hs r hr
  obtain ⟨get, hget⟩ := isGet_of_requestFindings (Lint.found_of_check h s hs r hr)
  exact hasMethod_of_isGet hget

/-! ## Tests -/

theorem exists_toXml_of_hasMethod (settings : Settings) {t : Test}
    (h : ∀ s ∈ t.scenarios, ∀ r ∈ s.requests, HasMethod r) :
    ∃ xml, (toXml settings t).result = .ok xml := by
  obtain ⟨xml, hxml⟩ := toXml_of_hasMethod settings h
  exact ⟨xml, result_of_outcome hxml⟩

/-- A test has no plan if and only if the method of a request is given and is no text, and that is
the fault. A test that can be checked has a plan. -/
theorem toXml_faults (settings : Settings) (t : Test) :
    ((∃ fault, (toXml settings t).result = .error fault) ↔ ∃ r ∈ t.requests, r.HasWrongMethod) ∧
      (∀ fault, (toXml settings t).result = .error fault →
        ∃ r ∈ t.requests, r.HasWrongMethod ∧ fault = .noMember r.method.kind "upper") ∧
      ((∃ report, (Lint.check t).result = .ok report) →
        ∃ xml, (toXml settings t).result = .ok xml) := by
  refine ⟨⟨?_, ?_⟩, fun fault hfault => wrongMethod_of_toXml hfault, ?_⟩
  · rintro ⟨fault, hfault⟩
    obtain ⟨r, hr, hwrong, -⟩ := wrongMethod_of_toXml hfault
    exact ⟨r, hr, hwrong⟩
  · rintro ⟨r, hr, hwrong⟩
    obtain ⟨s, hs, hr⟩ := mem_requests.mp hr
    cases hresult : (toXml settings t).result with
    | error fault => exact ⟨fault, rfl⟩
    | ok xml =>
      obtain ⟨plan, hplan, -⟩ := exists_compile_of_toXml settings (outcome_eq_ok hresult)
      have hget := hasMethod_of_compile settings (result_of_outcome hplan) s hs r hr
      rw [HasMethod, Request.isGet_of_wrongMethod hwrong] at hget
      cases hget
  · rintro ⟨report, hreport⟩
    exact exists_toXml_of_hasMethod settings (hasMethod_of_check hreport)

end Plan

end LoadPlan
