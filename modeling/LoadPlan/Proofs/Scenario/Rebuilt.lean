import LoadPlan.Proofs.Scenario.Ids

/-!
# Tests are built from themselves

A test that was built from options is written as options again, each entity as a mapping of its
fields. What is built from them is the same test, with the same ids, although as many ids are drawn
as for the first one: every default is there now, and is taken as it is given.
-/

namespace LoadPlan

open Options

/-! ## Entities as options -/

/-- The entries of a mapping with a value for each field of a kind. -/
def Kind.entries (k : Kind) (values : List Value) : Entries :=
  (k.fields.zip values).map fun (f, v) => (.text f.name, v)

/-- A name and a value as options. -/
def KeyValue.toOptions (kv : KeyValue) : Value :=
  .mapping (Kind.keyValue.entries [kv.name, kv.value])

/-- A text assertion as options. -/
def TextAssertion.toOptions (a : TextAssertion) : Value :=
  .mapping (Kind.text.entries [a.subject, a.condition, a.value])

/-- An assertion on a regular expression as options. -/
def RegexAssertion.toOptions (a : RegexAssertion) : Value :=
  .mapping (Kind.regex.entries [a.subject, a.expression, a.description])

/-- A greatest duration as options. -/
def ResponseTime.toOptions (t : ResponseTime) : Value :=
  .mapping (Kind.responseTime.entries [t.value])

/-- The assertions of a request as options. -/
def Assertions.toOptions (a : Assertions) : Value :=
  .mapping (Kind.assertions.entries
    [.list (a.text.map TextAssertion.toOptions), .list (a.regex.map RegexAssertion.toOptions),
     a.duration.elim .null ResponseTime.toOptions])

/-- A body as options. -/
def Body.toOptions (b : Body) : Value :=
  .mapping (Kind.body.entries [b.type, b.raw, .list (b.kvs.map KeyValue.toOptions)])

/-- A request as options. -/
def Request.toOptions (r : Request) : Value :=
  .mapping (Kind.request.entries
    [r.id, r.name, r.url, r.method, .list (r.parameters.map KeyValue.toOptions),
     .list (r.headers.map KeyValue.toOptions), r.body.elim .null Body.toOptions,
     r.assertions.elim .null Assertions.toOptions, .list r.extract])

/-- There is an option for each field. -/
example (r : Request) :
    (optionsOf r.toOptions).map (·.1) = Kind.request.fields.map fun f => .text f.name :=
  rfl

/-- A scenario as options. -/
def Scenario.toOptions (s : Scenario) : Value :=
  .mapping (Kind.scenario.entries
    [s.id, s.name, s.url, .list (s.parameters.map KeyValue.toOptions),
     .list (s.headers.map KeyValue.toOptions), .list (s.requests.map Request.toOptions)])

/-- A test as options. -/
def Test.toOptions (t : Test) : Value :=
  .mapping (Kind.test.entries
    [t.version, t.id, t.name, t.projectId, .list (t.scenarios.map Scenario.toOptions)])

/-! ## Builds with a known result -/

/-- The state after some ids were drawn and nothing else was done. -/
def BuildState.advance (s : BuildState) (count : Nat) : BuildState :=
  { s with nextId := s.nextId + count }

@[simp]
theorem BuildState.advance_advance (s : BuildState) (m n : Nat) :
    (s.advance m).advance n = s.advance (m + n) := by
  simp [BuildState.advance, Int.add_assoc]

namespace Build

variable {α β : Type}

/-- A build that gives a result from any state, and draws some ids without giving notices. -/
def Yields (x : Build α) (a : α) (count : Nat) : Prop :=
  EachRun x fun s result t => result = .ok a ∧ t = s.advance count

theorem Yields.run_eq {x : Build α} {a : α} {count : Nat} (hx : Yields x a count)
    (s : BuildState) : x.run s = (.ok a, s.advance count) :=
  Prod.ext (hx s).1 (hx s).2

theorem Yields.pure (a : α) : Yields (Pure.pure a) a 0 :=
  EachRun.pure fun s => ⟨rfl, by simp [BuildState.advance]⟩

theorem Yields.bind {x : Build α} {f : α → Build β} {a : α} {b : β} {m n : Nat}
    (hx : Yields x a m) (hf : Yields (f a) b n) : Yields (x >>= f) b (m + n) := by
  refine EachRun.bind (S := fun c s result t => c = a → result = .ok b ∧ t = s.advance n) hx
    ?_ ?_ ?_
  · rintro _ s rfl
    exact hf s
  · rintro s c _ result u ⟨hc, rfl⟩ hlast
    obtain ⟨hresult, rfl⟩ := hlast (Except.ok.inj hc)
    exact ⟨hresult, s.advance_advance m n⟩
  · rintro s fault t ⟨hfault, -⟩
    cases hfault

/-- Whatever id is drawn, the result is the same. -/
theorem Yields.drawId {f : Int → Build β} {b : β} {n : Nat} (hf : ∀ id, Yields (f id) b n) :
    Yields (Build.drawId >>= f) b (n + 1) := by
  refine EachRun.bind (R := fun s result t => (∃ id, result = .ok id) ∧ t = s.advance 1)
    (fun s => ⟨⟨_, rfl⟩, rfl⟩) hf ?_ ?_
  · rintro s id _ result u ⟨-, rfl⟩ ⟨hresult, rfl⟩
    exact ⟨hresult, by rw [s.advance_advance, Nat.add_comm]⟩
  · rintro s fault t ⟨⟨id, hid⟩, -⟩
    cases hid

/-- After a step that draws no ids. -/
theorem Yields.then {x : Build α} {f : α → Build β} {a : α} {b : β} {n : Nat} (hx : Yields x a 0)
    (hf : Yields (f a) b n) : Yields (x >>= f) b n :=
  Nat.zero_add n ▸ hx.bind hf

/-- Before a step that draws no ids. -/
theorem Yields.before {x : Build α} {f : α → Build β} {a : α} {b : β} {n : Nat} (hx : Yields x a n)
    (hf : Yields (f a) b 0) : Yields (x >>= f) b n :=
  hx.bind hf

/-- No option of an entity that has one for each field is ignored. -/
theorem Yields.noteIgnored (kind : Kind) (values : List Value) :
    Yields (Options.noteIgnored kind (kind.entries values)) () 0 := by
  have hnone : (((kind.entries values).map (·.1)).filter
      fun k => !kind.optionNames.any k.isText) = [] := by
    rw [List.filter_eq_nil_iff]
    intro k hk
    obtain ⟨e, he, rfl⟩ := List.mem_map.mp hk
    obtain ⟨⟨f, v⟩, hfield, rfl⟩ := List.mem_map.mp he
    have hname : f.name ∈ kind.optionNames :=
      List.mem_flatMap.mpr ⟨f, (List.of_mem_zip hfield).1, List.mem_cons_self⟩
    have hknown : kind.optionNames.any (Value.text f.name).isText = true :=
      List.any_eq_true.mpr ⟨f.name, hname, beq_self_eq_true f.name⟩
    simp [hknown]
  unfold Options.noteIgnored
  dsimp only
  rw [hnone]
  exact .pure ()

section List

variable {f : Value → Build α} {g : α → Value} {count : α → Nat}

theorem Yields.mapM {as : List α} (h : ∀ a ∈ as, Yields (f (g a)) a (count a)) :
    Yields ((as.map g).mapM f) as (as.map count).sum := by
  rw [List.mapM_map]
  refine EachRun.mapM (L := fun as s result t =>
    result = .ok as ∧ t = s.advance (as.map count).sum) ?_ h
  constructor
  case nil => exact fun s => ⟨rfl, by simp [BuildState.advance]⟩
  case cons =>
    rintro a as s b _ bs _ ⟨hb, rfl⟩ ⟨hbs, rfl⟩
    exact ⟨by rw [Except.ok.inj hb, Except.ok.inj hbs], by rw [s.advance_advance]; rfl⟩
  case first => exact fun hfirst => nomatch hfirst.1
  case rest => exact fun _ hrest => nomatch hrest.1

/-- Entities of a list that draw no ids. -/
theorem Yields.entities (h : ∀ a, Yields (f (g a)) a 0) (kind : Kind) (key : String)
    (as : List α) : Yields (Options.entities f kind key (.list (as.map g))) as 0 := by
  have hlist : Yields ((as.map g).mapM f) as (as.map fun _ => 0).sum := .mapM fun a _ => h a
  simpa [Options.entities] using hlist

/-- Entities of a list that is never left empty. -/
theorem Yields.entitiesOrDefault {as : List α} (h : ∀ a ∈ as, Yields (f (g a)) a (count a))
    (hsome : as ≠ []) (kind : Kind) (key : String) :
    Yields (Options.entities f kind key (Options.orDefault (.list (as.map g)))) as
      (as.map count).sum := by
  have hgiven : (Value.list (as.map g)).isTruthy = true := by simpa [Value.isTruthy] using hsome
  rw [Options.orDefault, Value.orElse, if_pos hgiven]
  exact .mapM h

end List

end Build

open Build

/-! ## Entities without ids -/

theorem KeyValue.ofOptions_toOptions (kv : KeyValue) :
    Yields (KeyValue.ofOptions kv.toOptions) kv 0 :=
  (Yields.pure _).then ((Yields.noteIgnored .keyValue _).then (.pure kv))

theorem TextAssertion.ofOptions_toOptions (a : TextAssertion) :
    Yields (TextAssertion.ofOptions a.toOptions) a 0 :=
  (Yields.pure _).then ((Yields.noteIgnored .text _).then (.pure a))

theorem RegexAssertion.ofOptions_toOptions (a : RegexAssertion) :
    Yields (RegexAssertion.ofOptions a.toOptions) a 0 :=
  (Yields.pure _).then ((Yields.noteIgnored .regex _).then (.pure a))

theorem ResponseTime.ofOptions_toOptions (t : ResponseTime) :
    Yields (ResponseTime.ofOptions t.toOptions) t 0 :=
  (Yields.pure _).then ((Yields.noteIgnored .responseTime _).then (.pure t))

theorem Assertions.ofOptions_toOptions {a : Assertions} {t : ResponseTime}
    (h : a.duration = some t) : Yields (Assertions.ofOptions a.toOptions) a 0 := by
  obtain ⟨text, regex, duration⟩ := a
  obtain rfl : duration = some t := h
  refine (Yields.pure _).then ((ResponseTime.ofOptions_toOptions t).then ?_)
  refine (Yields.entities TextAssertion.ofOptions_toOptions _ _ text).then ?_
  refine (Yields.entities RegexAssertion.ofOptions_toOptions _ _ regex).then ?_
  exact (Yields.noteIgnored .assertions _).then (.pure _)

theorem Body.ofOptions_toOptions (b : Body) : Yields (Body.ofOptions b.toOptions) b 0 := by
  refine (Yields.pure _).then ?_
  refine (Yields.entities KeyValue.ofOptions_toOptions _ _ b.kvs).then ?_
  exact (Yields.noteIgnored .body _).then (.pure b)

/-! ## Entities with ids -/

/-- A request draws an id that is not used, since it has one. -/
theorem Request.ofOptions_toOptions {r : Request} (h : r.IsComplete) :
    Yields (Request.ofOptions r.toOptions) r 1 := by
  obtain ⟨id, name, url, method, parameters, headers, body, assertions, extract⟩ := r
  obtain ⟨⟨hmethod, ⟨body, rfl⟩, assertions, duration, rfl, hduration⟩, rfl⟩ := h
  refine (Yields.pure _).then (.drawId fun drawn => ?_)
  refine (Body.ofOptions_toOptions body).then ?_
  refine (Assertions.ofOptions_toOptions hduration).then ?_
  refine (Yields.entities KeyValue.ofOptions_toOptions _ _ parameters).then ?_
  refine (Yields.entities KeyValue.ofOptions_toOptions _ _ headers).then ?_
  refine (Yields.noteIgnored .request _).then ?_
  -- the id is an option now, and the method is given, so neither default is used again
  have hkept : method.orElse (.text "GET") = method := if_pos hmethod
  change Yields (Pure.pure (Request.mk id name url (method.orElse (.text "GET")) parameters headers
    (some body) (some assertions) [])) _ 0
  rw [hkept]
  exact .pure _

/-- A scenario and its requests draw ids that are not used. -/
theorem Scenario.ofOptions_toOptions {s : Scenario} (hsome : s.requests ≠ [])
    (hrequests : ∀ r ∈ s.requests, r.IsComplete) :
    Yields (Scenario.ofOptions s.toOptions) s (1 + s.requests.length) := by
  have hlist := Yields.entitiesOrDefault
    (fun r hr => Request.ofOptions_toOptions (hrequests r hr)) hsome .scenario "requests"
  rw [List.map_const', List.sum_replicate_nat, Nat.mul_one] at hlist
  rw [Nat.add_comm]
  refine (Yields.pure _).then (.drawId fun drawn => ?_)
  refine (Yields.entities KeyValue.ofOptions_toOptions _ _ s.parameters).then ?_
  refine (Yields.entities KeyValue.ofOptions_toOptions _ _ s.headers).then ?_
  exact hlist.before ((Yields.noteIgnored .scenario _).then (.pure s))

/-! ## Tests -/

theorem Test.ofOptions_toOptions {t : Test} (h : t.IsComplete) :
    Yields (Test.ofOptions t.toOptions) t t.ids.length := by
  have hlist := Yields.entitiesOrDefault
    (fun s hs => Scenario.ofOptions_toOptions (h.requests s hs) (h.complete s hs)) h.scenarios
    .test "scenario_definition"
  rw [← t.length_ids] at hlist
  exact (Yields.pure _).then (hlist.before ((Yields.noteIgnored .test _).then (.pure t)))

/-- What is built from a test that was built from options is the same test, whatever was built
before. As many ids are drawn as the test has, and nothing is ignored. -/
theorem Test.toOptions_rebuilds {options : Value} {first : Int} {t : Test} {state : BuildState}
    (h : (Test.ofOptions options).outcome first = (.ok t, state)) (before : BuildState) :
    (Test.ofOptions t.toOptions).run before = (.ok t, before.advance t.ids.length) := by
  have hdescribed : OfEntity Test.DescribedBy options t :=
    (Test.ofOptions_describedBy options).of_run h
  obtain ⟨o, ho⟩ := hdescribed.exists_options
  exact (Test.ofOptions_toOptions ho.isComplete).run_eq before

theorem Test.toOptions_rebuilds_annotated : ∃ t state,
    (Test.ofOptions Plan.annotatedOptions).outcome 5 = (.ok t, state) ∧
      t.ids = [.null, .text "first", .int 7] ∧
      (Test.ofOptions t.toOptions).run { nextId := 20 } = (.ok t, { nextId := 23 }) :=
  have hbuilt : (Test.ofOptions Plan.annotatedOptions).outcome 5 = (.ok _, _) := rfl
  ⟨_, _, hbuilt, rfl, Test.toOptions_rebuilds hbuilt { nextId := 20 }⟩

end LoadPlan
