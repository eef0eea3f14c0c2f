import LoadPlan.Proofs.Scenario.Built

/-!
# The grammar of options

Which values a test can be built from. The grammar follows the entities: each of them is null or a
mapping, a list of entities is null or a list, and a list that is never left empty may also be given
as anything that counts as not given. A builder recognizes a part of the grammar if it builds its
entity exactly from the values of that part and finds a wrong shape in all others.
-/

namespace LoadPlan

/-! ## Keys -/

namespace Value

mutual

/-- Whether all keys of the mappings in a value are texts. -/
def hasTextKeys : Value → Bool
  | .list items => itemsHaveTextKeys items
  | .mapping entries => entriesHaveTextKeys entries
  | _ => true

/-- Whether all keys of the mappings in some values are texts. -/
def itemsHaveTextKeys : List Value → Bool
  | [] => true
  | v :: rest => v.hasTextKeys && itemsHaveTextKeys rest

/-- Whether the keys of entries are texts, and those of the mappings in their values. -/
def entriesHaveTextKeys : List (Value × Value) → Bool
  | [] => true
  | (.text _, v) :: rest => v.hasTextKeys && entriesHaveTextKeys rest
  | _ :: _ => false

end

theorem hasTextKeys_of_mem {items : List Value} (h : itemsHaveTextKeys items = true) :
    ∀ v ∈ items, v.hasTextKeys = true := by
  induction items with
  | nil => simp
  | cons v items ih =>
    rw [itemsHaveTextKeys, Bool.and_eq_true] at h
    exact List.forall_mem_cons.mpr ⟨h.1, ih h.2⟩

theorem text_of_mem {entries : Entries} (h : entriesHaveTextKeys entries = true) :
    ∀ e ∈ entries, (∃ s, e.1 = .text s) ∧ e.2.hasTextKeys = true := by
  induction entries with
  | nil => simp
  | cons e entries ih =>
    obtain ⟨key, v⟩ := e
    cases key with
    | text s =>
      rw [entriesHaveTextKeys, Bool.and_eq_true] at h
      exact List.forall_mem_cons.mpr ⟨⟨⟨s, rfl⟩, h.1⟩, ih h.2⟩
    | _ => cases h

theorem hasTextKeys_get {entries : Entries} (h : entriesHaveTextKeys entries = true)
    (key : String) : (entries.get key).hasTextKeys = true := by
  unfold Entries.get Entries.find?
  cases hfind : List.find? (fun e => e.1.isText key) entries with
  | none => rfl
  | some e => exact (text_of_mem h e (List.mem_of_find?_eq_some hfind)).2

theorem comparable_of_texts {keys : List Value} (h : ∀ k ∈ keys, ∃ s, k = .text s) :
    comparable keys = true := by
  induction keys with
  | nil => rfl
  | cons k keys ih =>
    obtain ⟨⟨s, rfl⟩, hrest⟩ := List.forall_mem_cons.mp h
    rw [comparable, Bool.and_eq_true, List.all_eq_true]
    refine ⟨fun l hl => ?_, ih hrest⟩
    obtain ⟨t, rfl⟩ := hrest l hl
    rfl

/-- Texts can be sorted. -/
theorem exists_sortKeys? {keys : List Value} (h : ∀ k ∈ keys, ∃ s, k = .text s) :
    ∃ sorted, sortKeys? keys = some sorted :=
  ⟨_, if_pos (comparable_of_texts h)⟩

end Value

/-! ## Values of options -/

namespace Options

/-- Null, or a mapping whose options have a property. -/
def IsEntity (P : Entries → Prop) : Value → Prop
  | .null => True
  | .mapping o => P o
  | _ => False

/-- Null, or a list of values with a property. -/
def IsList (P : Value → Prop) : Value → Prop
  | .null => True
  | .list items => ∀ v ∈ items, P v
  | _ => False

/-- A value that counts as not given, or a list of values with a property. -/
def IsListOrDefault (P : Value → Prop) (v : Value) : Prop :=
  v.isTruthy = true → ∃ items, v = .list items ∧ ∀ w ∈ items, P w

/-- The option under a name, or under a further name if there is none; null if both are absent. -/
def getEither (o : Entries) (name further : String) : Value :=
  if o.has name then o.get name else o.get further

/-- An entity with no rule for its options: an entry, an assertion or a duration. -/
def IsSimple : Value → Prop :=
  IsEntity fun _ => True

/-- Options of assertions. -/
structure AssertionsShape (o : Entries) : Prop where
  text : IsList IsSimple (o.get "text")
  regex : IsList IsSimple (o.get "regex")
  duration : IsSimple (o.get "duration")

/-- Options of a body. -/
structure BodyShape (o : Entries) : Prop where
  kvs : IsList IsSimple (o.get "kvs")

/-- Options of a request. -/
structure RequestShape (o : Entries) : Prop where
  parameters : IsList IsSimple (o.get "parameters")
  headers : IsList IsSimple (o.get "headers")
  body : IsEntity BodyShape (o.get "body")
  assertions : IsEntity AssertionsShape (o.get "assertions")

/-- Options of a scenario. -/
structure ScenarioShape (o : Entries) : Prop where
  parameters : IsList IsSimple (o.get "parameters")
  headers : IsList IsSimple (o.get "headers")
  requests : IsListOrDefault (IsEntity RequestShape) (o.get "requests")

/-- Options of a test. -/
structure TestShape (o : Entries) : Prop where
  scenarios : IsListOrDefault (IsEntity ScenarioShape)
    (getEither o "scenario_definition" "scenarioDefinition")

end Options

open Options

/-! ## Builds that recognize a grammar -/

namespace Build

variable {α β : Type} {P Q : Prop}

/-- A result that is there under a condition, and a wrong shape otherwise. -/
def IsVerdict (P : Prop) : Except Fault α → Prop
  | .ok _ => P
  | .error fault => ¬P ∧ ∃ shape, fault = .shape shape none

/-- A build that succeeds exactly under a condition; where it fails, it has found a wrong shape. -/
def Accepts (x : Build α) (P : Prop) : Prop :=
  EachRun x fun _ result _ => IsVerdict P result

theorem IsVerdict.ok_iff {r : Except Fault α} (h : IsVerdict P r) : (∃ a, r = .ok a) ↔ P := by
  cases r with
  | ok a => exact iff_of_true ⟨a, rfl⟩ h
  | error fault => exact iff_of_false nofun h.1

theorem IsVerdict.shape {fault : Fault} (h : IsVerdict P (.error fault : Except Fault α)) :
    ∃ shape, fault = .shape shape none :=
  h.2

theorem Accepts.of_iff {x : Build α} (hx : Accepts x P) (h : P ↔ Q) : Accepts x Q :=
  propext h ▸ hx

theorem Accepts.pure (a : α) : Accepts (Pure.pure a : Build α) True :=
  EachRun.pure fun _ => trivial

theorem Accepts.throw (shape : ShapeFault) :
    Accepts (MonadExcept.throw (.shape shape none) : Build α) False :=
  EachRun.throw fun _ => ⟨id, shape, rfl⟩

theorem Accepts.drawId : Accepts Build.drawId True :=
  fun _ => trivial

/-- A verdict on what comes second is one on both, if the first is met. -/
theorem IsVerdict.and {r : Except Fault α} (hP : P) (h : IsVerdict Q r) : IsVerdict (P ∧ Q) r := by
  cases r with
  | ok a => exact ⟨hP, h⟩
  | error fault => exact ⟨fun hboth => h.1 hboth.2, h.2⟩

theorem Accepts.bind {x : Build α} {f : α → Build β} (hx : Accepts x P)
    (hf : ∀ a, Accepts (f a) Q) : Accepts (x >>= f) (P ∧ Q) :=
  EachRun.bind hx hf (fun hP hQ => hQ.and hP) fun hfirst => ⟨fun h => hfirst.1 h.1, hfirst.2⟩

/-- A step that always succeeds does not matter. -/
theorem Accepts.then {x : Build α} {f : α → Build β} (hx : Accepts x True)
    (hf : ∀ a, Accepts (f a) Q) : Accepts (x >>= f) Q :=
  (hx.bind hf).of_iff (iff_of_eq (true_and Q))

theorem Accepts.mapM {f : Value → Build α} {P : Value → Prop} {l : List Value}
    (hf : ∀ v ∈ l, Accepts (f v) (P v)) : Accepts (l.mapM f) (∀ v ∈ l, P v) :=
  EachRun.mapM (L := fun l _ result _ => IsVerdict (∀ v ∈ l, P v) result)
    { nil := fun _ => nofun
      cons := fun hP hrest => List.forall_mem_cons.mpr ⟨hP, hrest⟩
      first := fun hfirst => ⟨fun h => hfirst.1 (h _ List.mem_cons_self), hfirst.2⟩
      rest := fun _ hrest =>
        ⟨fun h => hrest.1 fun w hw => h w (List.mem_cons_of_mem _ hw), hrest.2⟩ } hf

/-- Options that are ignored are never in the way if their keys are texts. -/
theorem Accepts.noteIgnored (kind : Kind) {o : Entries}
    (h : Value.entriesHaveTextKeys o = true) : Accepts (Options.noteIgnored kind o) True := by
  have hkeys : ∀ k ∈ (o.map (·.1)).filter fun k => !kind.optionNames.any k.isText,
      ∃ s, k = .text s := by
    intro k hk
    obtain ⟨e, he, rfl⟩ := List.mem_map.mp (List.mem_filter.mp hk).1
    exact (Value.text_of_mem h e he).1
  intro before
  unfold Options.noteIgnored
  dsimp only
  split
  · trivial
  · obtain ⟨sorted, hsorted⟩ := Value.exists_sortKeys? hkeys
    rw [hsorted]
    trivial

/-- A builder that builds exactly from the values of a grammar. -/
def Recognizes (f : Value → Build α) (P : Value → Prop) : Prop :=
  ∀ v : Value, v.hasTextKeys = true → Accepts (f v) (P v)

/-- What is built from a mapping or from null, which stands for a mapping without options. -/
theorem Recognizes.entity {kind : Kind} {f : Entries → Build α} {P : Entries → Prop}
    (hempty : P []) (hf : ∀ o, Value.entriesHaveTextKeys o = true → Accepts (f o) (P o)) :
    Recognizes (fun v => Options.ofValue kind v >>= f) (IsEntity P) := by
  intro v hv
  cases v with
  | null => exact (hf [] rfl).of_iff (iff_true_intro hempty)
  | mapping o => exact hf o hv
  | _ => exact fun _ => ⟨id, _, rfl⟩

variable {f : Value → Build α} {P : Value → Prop} {v : Value}

/-- What is built from a list of entities. -/
theorem Recognizes.entities (hf : Recognizes f P) (kind : Kind) (key : String)
    (hv : v.hasTextKeys = true) : Accepts (Options.entities f kind key v) (IsList P v) := by
  cases v with
  | null => exact .pure []
  | list items => exact .mapM fun w hw => hf w (Value.hasTextKeys_of_mem hv w hw)
  | _ => exact fun _ => ⟨id, _, rfl⟩

/-- What is built from a list of entities that is never left empty. -/
theorem Recognizes.entitiesOrDefault (hf : Recognizes f P) (hdefault : P (.mapping []))
    (kind : Kind) (key : String) (hv : v.hasTextKeys = true) :
    Accepts (Options.entities f kind key (orDefault v)) (IsListOrDefault P v) := by
  unfold orDefault Value.orElse IsListOrDefault
  by_cases hgiven : v.isTruthy = true
  · rw [if_pos hgiven]
    refine (hf.entities kind key hv).of_iff ?_
    cases v with
    | null => cases hgiven
    | list items => simp [IsList, hgiven]
    | _ => simp [IsList, hgiven]
  · rw [if_neg hgiven]
    refine (hf.entities kind key rfl).of_iff ?_
    simp [IsList, hgiven, hdefault]

end Build

open Build

/-! ## Entities -/

/-- An entity without rules for its options is built after what is ignored is noted. -/
theorem Build.Recognizes.simple {α : Type} (kind : Kind) (make : Entries → α) :
    Recognizes
      (fun v => do
        let o ← ofValue kind v
        noteIgnored kind o
        return make o) IsSimple :=
  .entity trivial fun _ ho => (Accepts.noteIgnored kind ho).then fun _ => .pure _

theorem KeyValue.ofOptions_recognizes : Recognizes KeyValue.ofOptions IsSimple :=
  .simple .keyValue _

theorem TextAssertion.ofOptions_recognizes : Recognizes TextAssertion.ofOptions IsSimple :=
  .simple .text _

theorem RegexAssertion.ofOptions_recognizes : Recognizes RegexAssertion.ofOptions IsSimple :=
  .simple .regex _

theorem ResponseTime.ofOptions_recognizes : Recognizes ResponseTime.ofOptions IsSimple :=
  .simple .responseTime _

theorem Assertions.ofOptions_recognizes :
    Recognizes Assertions.ofOptions (IsEntity AssertionsShape) := by
  refine .entity ⟨trivial, trivial, trivial⟩ fun o ho => ?_
  have hkeys := Value.hasTextKeys_get ho
  have hduration := ResponseTime.ofOptions_recognizes _ (hkeys "duration")
  have htext := TextAssertion.ofOptions_recognizes.entities .assertions "text" (hkeys "text")
  have hregex := RegexAssertion.ofOptions_recognizes.entities .assertions "regex" (hkeys "regex")
  refine (hduration.bind fun _ => htext.bind fun _ => hregex.bind fun _ =>
    (Accepts.noteIgnored .assertions ho).then fun _ => .pure _).of_iff ?_
  exact ⟨fun ⟨hduration, htext, hregex, _⟩ => ⟨htext, hregex, hduration⟩,
    fun ⟨htext, hregex, hduration⟩ => ⟨hduration, htext, hregex, trivial⟩⟩

theorem Body.ofOptions_recognizes : Recognizes Body.ofOptions (IsEntity BodyShape) := by
  refine .entity ⟨trivial⟩ fun o ho => ?_
  have hkvs := KeyValue.ofOptions_recognizes.entities .body "kvs" (Value.hasTextKeys_get ho "kvs")
  refine (hkvs.bind fun _ => (Accepts.noteIgnored .body ho).then fun _ => .pure _).of_iff ?_
  exact ⟨fun ⟨hkvs, _⟩ => ⟨hkvs⟩, fun ⟨hkvs⟩ => ⟨hkvs, trivial⟩⟩

theorem Request.ofOptions_recognizes : Recognizes Request.ofOptions (IsEntity RequestShape) := by
  refine .entity ⟨trivial, trivial, trivial, trivial⟩ fun o ho => ?_
  have hkeys := Value.hasTextKeys_get ho
  have hbody := Body.ofOptions_recognizes _ (hkeys "body")
  have hassertions := Assertions.ofOptions_recognizes _ (hkeys "assertions")
  have hparameters :=
    KeyValue.ofOptions_recognizes.entities .request "parameters" (hkeys "parameters")
  have hheaders := KeyValue.ofOptions_recognizes.entities .request "headers" (hkeys "headers")
  refine (Accepts.drawId.then fun _ => hbody.bind fun _ => hassertions.bind fun _ =>
    hparameters.bind fun _ => hheaders.bind fun _ =>
      (Accepts.noteIgnored .request ho).then fun _ => .pure _).of_iff ?_
  exact ⟨fun ⟨hbody, hassertions, hparameters, hheaders, _⟩ =>
      ⟨hparameters, hheaders, hbody, hassertions⟩,
    fun ⟨hparameters, hheaders, hbody, hassertions⟩ =>
      ⟨hbody, hassertions, hparameters, hheaders, trivial⟩⟩

theorem Scenario.ofOptions_recognizes :
    Recognizes Scenario.ofOptions (IsEntity ScenarioShape) := by
  refine .entity ⟨trivial, trivial, nofun⟩ fun o ho => ?_
  have hkeys := Value.hasTextKeys_get ho
  have hparameters :=
    KeyValue.ofOptions_recognizes.entities .scenario "parameters" (hkeys "parameters")
  have hheaders := KeyValue.ofOptions_recognizes.entities .scenario "headers" (hkeys "headers")
  have hrequests := Request.ofOptions_recognizes.entitiesOrDefault
    ⟨trivial, trivial, trivial, trivial⟩ .scenario "requests" (hkeys "requests")
  refine (Accepts.drawId.then fun _ => hparameters.bind fun _ => hheaders.bind fun _ =>
    hrequests.bind fun _ => (Accepts.noteIgnored .scenario ho).then fun _ => .pure _).of_iff ?_
  exact ⟨fun ⟨hparameters, hheaders, hrequests, _⟩ => ⟨hparameters, hheaders, hrequests⟩,
    fun ⟨hparameters, hheaders, hrequests⟩ => ⟨hparameters, hheaders, hrequests, trivial⟩⟩

/-! ## Tests -/

/-- The option that is read under either name. -/
@[simp]
theorem Options.find?_getD (o : Entries) (name further : String) :
    ((Options.find? o name further).getD (name, .null)).2 = getEither o name further := by
  unfold Options.find? getEither Entries.has Entries.get
  cases Entries.find? o name with
  | some v => rfl
  | none => cases Entries.find? o further <;> rfl

theorem Test.ofOptions_recognizes : Recognizes Test.ofOptions (IsEntity TestShape) := by
  refine .entity ⟨nofun⟩ fun o ho => ?_
  have hkeys : (getEither o "scenario_definition" "scenarioDefinition").hasTextKeys = true := by
    unfold getEither
    split <;> exact Value.hasTextKeys_get ho _
  rw [← Options.find?_getD] at hkeys
  have hscenarios := Scenario.ofOptions_recognizes.entitiesOrDefault ⟨trivial, trivial, nofun⟩
    .test ((Options.find? o "scenario_definition" "scenarioDefinition").getD
      ("scenario_definition", .null)).1 hkeys
  refine (hscenarios.bind fun _ =>
    (Accepts.noteIgnored .test ho).then fun _ => .pure _).of_iff ?_
  rw [Options.find?_getD, and_true]
  exact ⟨fun h => ⟨h⟩, fun ⟨h⟩ => h⟩

/-- A test is built exactly from options of its grammar; otherwise a wrong shape is found. -/
theorem Test.ofOptions_accepts {options : Value} (hkeys : options.hasTextKeys = true)
    (first : Int) :
    ((∃ t, ((Test.ofOptions options).outcome first).1 = .ok t) ↔ IsEntity TestShape options) ∧
      ∀ fault, ((Test.ofOptions options).outcome first).1 = .error fault →
        ∃ shape, fault = .shape shape none := by
  have hverdict := Test.ofOptions_recognizes options hkeys { nextId := first }
  exact ⟨hverdict.ok_iff, fun fault hfault => (hfault ▸ hverdict).shape⟩

theorem Test.ofOptions_accepts_sample :
    sampleOptions.hasTextKeys = true ∧ IsEntity TestShape sampleOptions := by
  have hkeys : sampleOptions.hasTextKeys = true := rfl
  have hbuilt : ∃ t, ((Test.ofOptions sampleOptions).outcome 1).1 = .ok t :=
    ⟨sampleTest, congrArg Prod.fst sampleTest_built⟩
  exact ⟨hkeys, (Test.ofOptions_accepts hkeys 1).1.mp hbuilt⟩

end LoadPlan
