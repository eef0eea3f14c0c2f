import LoadPlan.Plan.Compile
import LoadPlan.Proofs.Notice

/-!
# What compiling gives

The notices of a compilation apart, a test compiles to a plan that is found part by part from its
requests (`compiledTest`). It compiles exactly when the methods of all requests can be compared with
GET.
-/

namespace LoadPlan

open Logged

/-! ## Endpoints -/

theorem Endpoint.ofRequest_adds (r : Request) : Adds (Endpoint.ofRequest r) := by
  unfold ofRequest
  split
  · exact Adds.pure _
  · split
    · exact (Adds.note _).bind fun _ => Adds.pure _
    · exact (Adds.lift _).bind fun _ => Adds.pure _

theorem Endpoint.ofRequest_result_of_error {r : Request} {fault : Fault}
    (h : r.isGet = .error fault) : (Endpoint.ofRequest r).result = .error fault ∨
      ∃ e, (Endpoint.ofRequest r).result = .ok e := by
  unfold ofRequest
  split
  · exact .inr ⟨_, rfl⟩
  · split
    · exact .inr ⟨_, rfl⟩
    · rw [h]
      exact .inl rfl

/-- The address of a request, if its URL gives one. -/
def Request.address? (r : Request) (get : Bool) : Option Address :=
  if r.url.isTruthy then
    match Url.absolute r.url.display with
    | .error _ => none
    | .ok (url, port) => some (.ofUrl url port (!get))
  else none

theorem Endpoint.ofRequest_result {r : Request} {get : Bool} (h : r.isGet = .ok get) :
    (Endpoint.ofRequest r).result = .ok { method := r.method, address := r.address? get } := by
  unfold ofRequest Request.address?
  by_cases hurl : r.url.isTruthy = true
  · simp only [hurl]
    cases Url.absolute r.url.display with
    | error problem => rfl
    | ok parts =>
      simp only [h]
      rfl
  · simp only [hurl]
    rfl

namespace Plan

/-! ## What a request sends -/

theorem payloadOf_adds (r : Request) : Adds (payloadOf r) := by
  unfold payloadOf
  split
  · exact (Adds.note _).bind fun _ => Adds.pure _
  · refine (Adds.lift _).bind fun get => ?_
    split
    · dsimp only
      split <;> exact Adds.pure _
    · split
      · exact (Adds.note _).bind fun _ => Adds.pure _
      · split <;> exact Adds.pure _

/-- The properties of a sampler that hold what a request sends. -/
def payload (r : Request) (get : Bool) : Counted (List Element) :=
  if !r.method.isTruthy then ⟨[], {}⟩
  else if get then
    let kvs := validOnly r.parameters
    if kvs.isEmpty then ⟨[], {}⟩ else ⟨[arguments kvs (.bool true)], { arguments := 1 }⟩
  else
    match r.body with
    | none => ⟨[], {}⟩
    | some body =>
      if body.isKeyValue then
        ⟨[rawBodyProp (.bool false), arguments (validOnly body.kvs) (.bool true)],
          { bodies := 1 }⟩
      else
        ⟨[rawBodyProp (.bool true), arguments [⟨.text "", body.raw⟩] (.bool false)],
          { bodies := 1 }⟩

theorem isGet_of_falsy {r : Request} (h : r.method.isTruthy = false) :
    ∃ get, r.isGet = .ok get := by
  unfold Request.isGet isGet
  split
  · exact ⟨_, rfl⟩
  · exact ⟨false, by simp [h]⟩

theorem payloadOf_result (r : Request) : (payloadOf r).result = r.isGet.map (payload r) := by
  unfold payloadOf
  by_cases hmethod : r.method.isTruthy = true
  · rw [if_neg (by simp [hmethod])]
    cases hget : r.isGet with
    | error fault => rfl
    | ok get =>
      simp only [Except.map, payload, hmethod]
      cases get with
      | true => cases hempty : (validOnly r.parameters).isEmpty <;> simp <;> rfl
      | false =>
        cases hbody : r.body with
        | none => rfl
        | some body => cases hkeys : body.isKeyValue <;> simp [hkeys] <;> rfl
  · obtain ⟨get, hget⟩ := isGet_of_falsy (eq_false_of_ne_true hmethod)
    rw [if_pos (by simp [hmethod]), hget]
    simp only [Except.map, payload, hmethod]
    rfl

/-! ## Assertions -/

theorem regexAssertions_adds (request : Value) (rs : List RegexAssertion) :
    Adds (regexAssertions request rs) := by
  induction rs with
  | nil => exact Adds.pure _
  | cons r rs ih =>
    rw [regexAssertions]
    split
    · exact ih
    · split
      · exact (Adds.note _).bind fun _ => ih
      · exact ih.bind fun _ => Adds.pure _

theorem assertionsOf_adds (r : Request) : Adds (assertionsOf r) := by
  unfold assertionsOf
  split
  · exact Adds.pure _
  · exact (regexAssertions_adds _ _).bind fun _ => Adds.pure _

/-- The part of the response that an assertion looks at, if it is valid and the part is known. -/
def checkedSubject? (r : RegexAssertion) : Option Subject :=
  if r.isValid then Subject.ofValue? r.subject else none

/-- The assertion on a regular expression that is compiled, if there is one. -/
def regexPart? (r : RegexAssertion) : Option TestElement :=
  (checkedSubject? r).map fun subject =>
    responseAssertion (fieldOf subject) r.description matchType r.expression .null

/-- The assertions on regular expressions that are compiled; each was counted where it was made. -/
def regexParts (rs : List RegexAssertion) : Counted (List TestElement) :=
  ⟨rs.filterMap regexPart?, { assertions := (rs.filterMap regexPart?).length }⟩

theorem regexParts_cons_none {r : RegexAssertion} (h : regexPart? r = none)
    (rs : List RegexAssertion) : regexParts (r :: rs) = regexParts rs := by
  rw [regexParts, List.filterMap_cons_none h, regexParts]

theorem regexParts_cons_some {r : RegexAssertion} {t : TestElement} (h : regexPart? r = some t)
    (rs : List RegexAssertion) : regexParts (r :: rs) =
      ⟨t :: (regexParts rs).part, ({ assertions := 1 } : Stats) + (regexParts rs).stats⟩ := by
  rw [regexParts, List.filterMap_cons_some h, List.length_cons, Nat.add_comm]
  rfl

theorem regexAssertions_result (request : Value) (rs : List RegexAssertion) :
    (regexAssertions request rs).result = .ok (regexParts rs) := by
  induction rs with
  | nil => rfl
  | cons r rs ih =>
    rw [regexAssertions]
    by_cases hvalid : r.isValid = true
    · rw [if_neg (by simp [hvalid])]
      cases hsubject : Subject.ofValue? r.subject with
      | none =>
        rw [regexParts_cons_none (by simp [regexPart?, checkedSubject?, hvalid, hsubject])]
        rw [result_bind fun _ => regexAssertions_adds request rs, ih]
        rfl
      | some subject =>
        rw [regexParts_cons_some (by simp [regexPart?, checkedSubject?, hvalid, hsubject]; rfl)]
        dsimp only
        rw [result_bind fun _ => Adds.pure _, ih]
        rfl
    · rw [if_pos (by simp [hvalid]), ih,
        regexParts_cons_none (by simp [regexPart?, checkedSubject?, hvalid])]

/-- The assertions of a request that are compiled. -/
def assertionParts (r : Request) : Counted (List TestElement) :=
  match r.assertions with
  | none => ⟨[], {}⟩
  | some a =>
    let regex := regexParts a.regex
    let duration := durationOf a
    ⟨regex.part ++ duration.part, regex.stats + duration.stats⟩

theorem assertionsOf_result (r : Request) : (assertionsOf r).result = .ok (assertionParts r) := by
  unfold assertionsOf assertionParts
  cases r.assertions with
  | none => rfl
  | some a =>
    simp only
    rw [result_bind fun _ => Adds.pure _, regexAssertions_result]
    rfl

/-! ## Requests -/

/-- The sampler of a request, without what it sends. -/
def bareSampler (name domain port protocol path method : Value) : TestElement :=
  standard "HTTPSamplerProxy" "HttpTestSampleGui" (name.orElse (.text "HTTP Request"))
    [stringProp "HTTPSampler.domain" domain,
     stringProp "HTTPSampler.port" port,
     stringProp "HTTPSampler.protocol" protocol,
     stringProp "HTTPSampler.path" path,
     stringProp "HTTPSampler.method" method,
     stringProp "HTTPSampler.contentEncoding" (.text "UTF-8"),
     boolProp "HTTPSampler.follow_redirects" true,
     boolProp "HTTPSampler.use_keepalive" true]

/-- The path of an address in a sampler. -/
def samplerPath (a : Address) : Value :=
  if a.pathname.isEmpty then .null else .text (String.ofList (decodeEntities a.pathname.toList))

/-- The sampler of an endpoint. -/
def endpointSampler (name : Value) (e : Endpoint) : TestElement :=
  match e.address with
  | none => bareSampler name .null .null .null .null e.method
  | some a =>
    bareSampler name (.text a.hostname) (.text a.port) (.text a.protocol) (samplerPath a) e.method

@[simp]
theorem samplerOf_eq (name : Value) (e : Endpoint) :
    samplerOf name e = .ok (endpointSampler name e) := by
  unfold samplerOf endpointSampler
  cases e.address <;> rfl

/-- The test element of a request, once it is known whether it is a GET. -/
def compiledRequest (r : Request) (get : Bool) : Counted TestElement :=
  let bare := endpointSampler r.name { method := r.method, address := r.address? get }
  requestOf bare (headersOf r) (payload r get) (assertionParts r)

theorem assertions_step_adds (r : Request) (bare : TestElement) (payload : Counted (List Element)) :
    Adds (do return requestOf bare (headersOf r) payload (← assertionsOf r)) :=
  (assertionsOf_adds r).bind fun _ => Adds.pure _

theorem compileRequest_adds (r : Request) : Adds (compileRequest r) :=
  (Endpoint.ofRequest_adds r).bind fun _ => (Adds.lift _).bind fun bare =>
    (payloadOf_adds r).bind fun payload => assertions_step_adds r bare payload

/-- A request compiles if its method can be compared with GET. -/
theorem compileRequest_result (r : Request) :
    (compileRequest r).result = r.isGet.map (compiledRequest r) := by
  have hlast := assertions_step_adds r
  have hpayload bare := (payloadOf_adds r).bind (hlast bare)
  have hbare e := (Adds.lift (samplerOf r.name e)).bind hpayload
  unfold compileRequest
  cases hget : r.isGet with
  | error fault =>
    obtain hendpoint | ⟨e, hendpoint⟩ := Endpoint.ofRequest_result_of_error hget
    · exact result_bind_of_error hbare hendpoint
    · rw [result_bind_of_ok hbare hendpoint, result_bind_of_ok hpayload
        ((result_lift _).trans (samplerOf_eq r.name e))]
      exact result_bind_of_error (hlast _) (by rw [payloadOf_result, hget]; rfl)
  | ok get =>
    rw [result_bind_of_ok hbare (Endpoint.ofRequest_result hget), result_bind_of_ok hpayload
      ((result_lift _).trans (samplerOf_eq r.name _)), result_bind_of_ok (hlast _)
      (by rw [payloadOf_result, hget]; rfl), result_bind_of_ok (fun _ => Adds.pure _)
      (assertionsOf_result r)]
    rfl

/-! ## Tests -/

/-- Whether a request is a GET, as far as its method can be compared. -/
def usesGet (r : Request) : Bool :=
  match r.isGet with
  | .ok get => get
  | .error _ => false

/-- A request whose method can be compared with GET. -/
def HasMethod (r : Request) : Prop :=
  r.isGet = .ok (usesGet r)

theorem hasMethod_of_isGet {r : Request} {get : Bool} (h : r.isGet = .ok get) : HasMethod r := by
  rw [HasMethod, usesGet, h]

/-- The test element of a request. -/
def requestPart (r : Request) : Counted TestElement :=
  compiledRequest r (usesGet r)

/-- The thread group of a scenario. -/
def scenarioPart (settings : Settings) (s : Scenario) : Counted TestElement :=
  groupOf settings s.name (collect (s.requests.map requestPart))

/-- The plan of a test. -/
def compiledTest (settings : Settings) (t : Test) : Counted Document :=
  let groups := collect (t.scenarios.map (scenarioPart settings))
  ⟨document settings.version [⟨(testPlan t.name (.text "")).element, groups.part⟩], groups.stats⟩

section Tests

variable (settings : Settings)

theorem compileRequest_result_of_hasMethod {r : Request} (h : HasMethod r) :
    (compileRequest r).result = .ok (requestPart r) := by
  rw [compileRequest_result, h]
  rfl

theorem hasMethod_of_compileRequest {r : Request} {c : Counted TestElement}
    (h : (compileRequest r).result = .ok c) : HasMethod r := by
  rw [compileRequest_result] at h
  cases hget : r.isGet with
  | error fault => simp [hget, Except.map] at h
  | ok get => exact hasMethod_of_isGet hget

theorem compileScenario_adds (s : Scenario) : Adds (compileScenario settings s) :=
  (Adds.mapM compileRequest_adds _).bind fun _ => Adds.pure _

theorem compileScenario_result (s : Scenario) : (compileScenario settings s).result =
    (s.requests.mapM fun r => (compileRequest r).result).map fun samplers =>
      groupOf settings s.name (collect samplers) := by
  unfold compileScenario
  rw [result_bind fun _ => Adds.pure _, result_mapM compileRequest_adds]
  rfl

theorem compileScenario_result_of_hasMethod {s : Scenario} (h : ∀ r ∈ s.requests, HasMethod r) :
    (compileScenario settings s).result = .ok (scenarioPart settings s) := by
  rw [compileScenario_result, Except.mapM_of_forall fun r hr =>
    compileRequest_result_of_hasMethod (h r hr)]
  rfl

theorem hasMethod_of_compileScenario {s : Scenario} {c : Counted TestElement}
    (h : (compileScenario settings s).result = .ok c) : ∀ r ∈ s.requests, HasMethod r := by
  rw [compileScenario_result] at h
  intro r hr
  cases hall : s.requests.mapM fun r => (compileRequest r).result with
  | error fault => simp [hall, Except.map] at h
  | ok samplers =>
    obtain ⟨c, hc⟩ := Except.exists_of_mapM hall r hr
    exact hasMethod_of_compileRequest hc

theorem planOf_adds (name : Value) (groups : Counted (List TestElement)) :
    Adds (planOf settings name groups) :=
  (Adds.note _).bind fun _ => Adds.pure _

theorem compile_result (t : Test) : (compile settings t).result =
    (t.scenarios.mapM fun s => (compileScenario settings s).result) >>= fun groups =>
      (planOf settings t.name (collect groups)).result := by
  unfold compile
  rw [result_bind fun _ => planOf_adds settings _ _, result_mapM (compileScenario_adds settings)]

/-- A test compiles if the methods of all its requests can be compared with GET. -/
theorem compile_result_of_hasMethod {t : Test}
    (h : ∀ s ∈ t.scenarios, ∀ r ∈ s.requests, HasMethod r) :
    (compile settings t).result = .ok (compiledTest settings t) := by
  rw [compile_result, Except.mapM_of_forall fun s hs =>
    compileScenario_result_of_hasMethod settings (h s hs)]
  rfl

theorem hasMethod_of_compile {t : Test} {plan : Counted Document}
    (h : (compile settings t).result = .ok plan) :
    ∀ s ∈ t.scenarios, ∀ r ∈ s.requests, HasMethod r := by
  rw [compile_result] at h
  intro s hs
  obtain ⟨groups, hgroups, -⟩ := Except.bind_eq_ok.mp h
  obtain ⟨c, hc⟩ := Except.exists_of_mapM hgroups s hs
  exact hasMethod_of_compileScenario settings hc

/-- If a test compiles, its plan is made of its parts. -/
theorem eq_compiledTest {t : Test} {plan : Counted Document}
    (h : (compile settings t).result = .ok plan) : plan = compiledTest settings t := by
  rw [compile_result_of_hasMethod settings (hasMethod_of_compile settings h)] at h
  exact (Except.ok.inj h).symm

theorem compile_adds (t : Test) : Adds (compile settings t) :=
  (Adds.mapM (compileScenario_adds settings) _).bind fun _ => planOf_adds settings _ _

theorem toXml_adds (t : Test) : Adds (toXml settings t) :=
  (compile_adds settings t).bind fun _ => Adds.lift _

theorem toXml_result (t : Test) : (toXml settings t).result =
    (compile settings t).result >>= fun plan => plan.part.render :=
  (result_bind fun _ => Adds.lift _).trans (by simp only [result_lift])

/-- The text of a plan is given with the notices of its compilation. -/
theorem toXml_outcome {t : Test} {plan : Counted Document} {notices : List Notice}
    (h : (compile settings t).outcome = (.ok plan, notices)) :
    (toXml settings t).outcome = (plan.part.render, notices) := by
  unfold toXml
  rw [outcome_bind fun _ => Adds.lift _, h]
  simp

theorem exists_compile_of_toXml {t : Test} {xml : String} {notices : List Notice}
    (h : (toXml settings t).outcome = (.ok xml, notices)) :
    ∃ plan, (compile settings t).outcome = (.ok plan, notices) ∧ plan.part.render = .ok xml := by
  unfold toXml at h
  rw [outcome_bind fun _ => Adds.lift _] at h
  rcases hplan : (compile settings t).outcome with ⟨fault | plan, w⟩
  · simp [hplan] at h
  · simp only [hplan, outcome_lift, List.append_nil, Prod.mk.injEq] at h
    exact ⟨plan, by rw [h.2], h.1⟩

end Tests

end Plan

end LoadPlan
