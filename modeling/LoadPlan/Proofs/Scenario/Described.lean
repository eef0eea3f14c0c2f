import LoadPlan.Proofs.Scenario.Grammar
import Mathlib.Data.List.Forall2

/-!
# Every option has its place

What the options of an entity say is found in the entity that is built from them, and nothing else
is: each field holds the value of its option or its default, and each list holds one entity for each
member of the list of options, in the same order. So no value of an option ends up in place of an
entity, whatever the options hold.
-/

namespace LoadPlan

/-! ## Entities and the values they are built from -/

namespace Options

variable {α : Type}

/-- An entity and the value it is built from: null or a mapping, where null has no options. -/
inductive OfEntity (P : Entries → α → Prop) : Value → α → Prop
  | null {a : α} : P [] a → OfEntity P .null a
  | mapping {o : Entries} {a : α} : P o a → OfEntity P (.mapping o) a

/-- Entities and the value they are built from: none for null, and one for each member of a list. -/
inductive Listed (P : Value → α → Prop) : Value → List α → Prop
  | null : Listed P .null []
  | list {items : List Value} {as : List α} : List.Forall₂ P items as → Listed P (.list items) as

/-- Entities of a list that is never left empty: for a value that counts as not given there is one
with all defaults. -/
inductive ListedOrDefault (P : Value → α → Prop) (v : Value) : List α → Prop
  | given {as : List α} : v.isTruthy = true → Listed P v as → ListedOrDefault P v as
  | default {a : α} : v.isTruthy = false → P (.mapping []) a → ListedOrDefault P v [a]

variable {P : Value → α → Prop} {v : Value} {as : List α}

theorem Listed.ne_nil (h : Listed P v as) (hv : v.isTruthy = true) : as ≠ [] := by
  cases h with
  | null => cases hv
  | list hitems =>
    rintro rfl
    cases hitems
    cases hv

theorem ListedOrDefault.ne_nil (h : ListedOrDefault P v as) : as ≠ [] := by
  cases h with
  | given hv hlisted => exact hlisted.ne_nil hv
  | default => exact List.cons_ne_nil _ []

/-- Each of the entities is built from some value. -/
theorem Listed.exists_of_mem (h : Listed P v as) : ∀ a ∈ as, ∃ w, P w a := by
  intro a ha
  cases h with
  | null => cases ha
  | list hitems =>
    obtain ⟨i, hi, rfl⟩ := List.mem_iff_getElem.mp ha
    exact ⟨_, hitems.get (hitems.length_eq ▸ hi) hi⟩

theorem ListedOrDefault.exists_of_mem (h : ListedOrDefault P v as) : ∀ a ∈ as, ∃ w, P w a := by
  cases h with
  | given _ hlisted => exact hlisted.exists_of_mem
  | default _ hdefault =>
    intro b hb
    rw [List.mem_singleton.mp hb]
    exact ⟨_, hdefault⟩

/-- Whatever an entity is built from, there are options for it. -/
theorem OfEntity.exists_options {P : Entries → α → Prop} {a : α} (h : OfEntity P v a) :
    ∃ o, P o a := by
  cases h with
  | null h => exact ⟨[], h⟩
  | mapping h => exact ⟨_, h⟩

end Options

open Options

/-! ## The fields of each entity -/

/-- A name and a value as their options have them. -/
structure KeyValue.DescribedBy (o : Entries) (kv : KeyValue) : Prop where
  name : kv.name = o.get "name"
  value : kv.value = o.get "value"

/-- A text assertion as its options have it. -/
structure TextAssertion.DescribedBy (o : Entries) (a : TextAssertion) : Prop where
  subject : a.subject = o.get "subject"
  condition : a.condition = o.get "condition"
  value : a.value = o.get "value"

/-- An assertion on a regular expression as its options have it. -/
structure RegexAssertion.DescribedBy (o : Entries) (a : RegexAssertion) : Prop where
  subject : a.subject = o.get "subject"
  expression : a.expression = o.get "expression"
  description : a.description = o.get "description"

/-- A greatest duration as its options have it. -/
structure ResponseTime.DescribedBy (o : Entries) (t : ResponseTime) : Prop where
  value : t.value = o.get "value"

/-- The assertions of a request as their options have them; there always is a duration. -/
structure Assertions.DescribedBy (o : Entries) (a : Assertions) : Prop where
  text : Listed (OfEntity TextAssertion.DescribedBy) (o.get "text") a.text
  regex : Listed (OfEntity RegexAssertion.DescribedBy) (o.get "regex") a.regex
  duration : ∃ t, a.duration = some t ∧ OfEntity ResponseTime.DescribedBy (o.get "duration") t

/-- A body as its options have it. -/
structure Body.DescribedBy (o : Entries) (b : Body) : Prop where
  type : b.type = o.get "type"
  raw : b.raw = o.get "raw"
  kvs : Listed (OfEntity KeyValue.DescribedBy) (o.get "kvs") b.kvs

/-- A request as its options have it; its id may be a drawn one. -/
structure Request.DescribedBy (o : Entries) (r : Request) : Prop where
  id : ∃ drawn : Int, r.id = (o.find? "id").getD (.int drawn)
  name : r.name = o.get "name"
  url : r.url = o.get "url"
  method : r.method = (o.get "method").orElse (.text "GET")
  parameters : Listed (OfEntity KeyValue.DescribedBy) (o.get "parameters") r.parameters
  headers : Listed (OfEntity KeyValue.DescribedBy) (o.get "headers") r.headers
  body : ∃ b, r.body = some b ∧ OfEntity Body.DescribedBy (o.get "body") b
  assertions : ∃ a, r.assertions = some a ∧
    OfEntity Assertions.DescribedBy (o.get "assertions") a
  extract : r.extract = []

/-- A scenario as its options have it; its id may be a drawn one. -/
structure Scenario.DescribedBy (o : Entries) (s : Scenario) : Prop where
  id : ∃ drawn : Int, s.id = (o.find? "id").getD (.int drawn)
  name : s.name = o.get "name"
  url : s.url = o.get "url"
  parameters : Listed (OfEntity KeyValue.DescribedBy) (o.get "parameters") s.parameters
  headers : Listed (OfEntity KeyValue.DescribedBy) (o.get "headers") s.headers
  requests : ListedOrDefault (OfEntity Request.DescribedBy) (o.get "requests") s.requests

/-- A test as its options have it. -/
structure Test.DescribedBy (o : Entries) (t : Test) : Prop where
  version : t.version = (o.find? "version").getD (.text "1.0.0")
  id : t.id = o.get "id"
  name : t.name = o.get "name"
  projectId : t.projectId = getEither o "project_id" "projectId"
  scenarios : ListedOrDefault (OfEntity Scenario.DescribedBy)
    (getEither o "scenario_definition" "scenarioDefinition") t.scenarios

/-- A request with everything that one built from options has, and with no rules for its
response. -/
structure Request.IsComplete (r : Request) : Prop extends Request.Built r where
  extract : r.extract = []

/-- A test with scenarios, each of them with requests, and all requests complete. -/
structure Test.IsComplete (t : Test) : Prop where
  scenarios : t.scenarios ≠ []
  requests : ∀ s ∈ t.scenarios, s.requests ≠ []
  complete : ∀ s ∈ t.scenarios, ∀ r ∈ s.requests, r.IsComplete

theorem Request.DescribedBy.isComplete {o : Entries} {r : Request} (h : r.DescribedBy o) :
    r.IsComplete where
  method := h.method ▸ Value.orElse_isTruthy (o.get "method") rfl
  body := by
    obtain ⟨b, hb, -⟩ := h.body
    exact ⟨b, hb⟩
  assertions := by
    obtain ⟨a, ha, hdescribed⟩ := h.assertions
    obtain ⟨o, ho⟩ := hdescribed.exists_options
    obtain ⟨t, ht, -⟩ := ho.duration
    exact ⟨a, t, ha, ht⟩
  extract := h.extract

theorem Scenario.DescribedBy.isComplete {o : Entries} {s : Scenario} (h : s.DescribedBy o) :
    s.requests ≠ [] ∧ ∀ r ∈ s.requests, r.IsComplete := by
  refine ⟨h.requests.ne_nil, ?_⟩
  intro r hr
  obtain ⟨v, hv⟩ := h.requests.exists_of_mem r hr
  obtain ⟨o, ho⟩ := hv.exists_options
  exact ho.isComplete

theorem Test.DescribedBy.isComplete {o : Entries} {t : Test} (h : t.DescribedBy o) :
    t.IsComplete := by
  have hparts : ∀ s ∈ t.scenarios, s.requests ≠ [] ∧ ∀ r ∈ s.requests, r.IsComplete := by
    intro s hs
    obtain ⟨v, hv⟩ := h.scenarios.exists_of_mem s hs
    obtain ⟨o, ho⟩ := hv.exists_options
    exact ho.isComplete
  exact ⟨h.scenarios.ne_nil, fun s hs => (hparts s hs).1, fun s hs => (hparts s hs).2⟩

/-! ## What a build gives -/

namespace Build

variable {α : Type}

/-- A builder that gives each value an entity which is related to it. -/
def Describes (f : Value → Build α) (P : Value → α → Prop) : Prop :=
  ∀ v, Gives (f v) (P v)

/-- What is built from null or a mapping. -/
theorem Describes.entity {kind : Kind} {f : Entries → Build α} {P : Entries → α → Prop}
    (hf : ∀ o, Gives (f o) (P o)) :
    Describes (fun v => Options.ofValue kind v >>= f) (OfEntity P) := by
  intro v
  cases v with
  | null => exact (hf []).imp fun _ => .null
  | mapping o => exact (hf o).imp fun _ => .mapping
  | _ => exact .throw _

section List

variable {f : Value → Build α} {P : Value → α → Prop} (hf : Describes f P)
include hf

/-- What is built from a list of entities. -/
theorem Describes.entities (kind : Kind) (key : String) (v : Value) :
    Gives (Options.entities f kind key v) (Listed P v) := by
  cases v with
  | null => exact .pure .null
  | list items => exact (Gives.mapM hf items).imp fun _ => .list
  | _ => exact .throw _

/-- What is built from a list of entities that is never left empty. -/
theorem Describes.entitiesOrDefault (kind : Kind) (key : String) (v : Value) :
    Gives (Options.entities f kind key (orDefault v)) (ListedOrDefault P v) := by
  unfold orDefault Value.orElse
  by_cases hgiven : v.isTruthy = true
  · rw [if_pos hgiven]
    exact (hf.entities kind key v).imp fun _ => .given hgiven
  · rw [if_neg hgiven]
    refine (hf.entities kind key _).imp fun as hlisted => ?_
    obtain ⟨⟩ | hitems := hlisted
    obtain _ | ⟨hfirst, hrest⟩ := hitems
    cases hrest
    exact .default (Bool.eq_false_iff.mpr hgiven) hfirst

end List

end Build

open Build

theorem KeyValue.ofOptions_describes :
    Describes KeyValue.ofOptions (OfEntity KeyValue.DescribedBy) :=
  .entity fun _ => .then fun _ => .pure ⟨rfl, rfl⟩

theorem TextAssertion.ofOptions_describes :
    Describes TextAssertion.ofOptions (OfEntity TextAssertion.DescribedBy) :=
  .entity fun _ => .then fun _ => .pure ⟨rfl, rfl, rfl⟩

theorem RegexAssertion.ofOptions_describes :
    Describes RegexAssertion.ofOptions (OfEntity RegexAssertion.DescribedBy) :=
  .entity fun _ => .then fun _ => .pure ⟨rfl, rfl, rfl⟩

theorem ResponseTime.ofOptions_describes :
    Describes ResponseTime.ofOptions (OfEntity ResponseTime.DescribedBy) :=
  .entity fun _ => .then fun _ => .pure ⟨rfl⟩

theorem Assertions.ofOptions_describes :
    Describes Assertions.ofOptions (OfEntity Assertions.DescribedBy) := by
  refine .entity fun o => ?_
  refine (ResponseTime.ofOptions_describes (o.get "duration")).bind fun t ht => ?_
  refine (TextAssertion.ofOptions_describes.entities .assertions "text" _).bind fun _ htext => ?_
  refine (RegexAssertion.ofOptions_describes.entities .assertions "regex" _).bind
    fun _ hregex => ?_
  exact .then fun _ => .pure ⟨htext, hregex, t, rfl, ht⟩

theorem Body.ofOptions_describes : Describes Body.ofOptions (OfEntity Body.DescribedBy) := by
  refine .entity fun o => ?_
  refine (KeyValue.ofOptions_describes.entities .body "kvs" _).bind fun _ hkvs => ?_
  exact .then fun _ => .pure ⟨rfl, rfl, hkvs⟩

theorem Request.ofOptions_describes :
    Describes Request.ofOptions (OfEntity Request.DescribedBy) := by
  refine .entity fun o => .then fun drawn => ?_
  refine (Body.ofOptions_describes (o.get "body")).bind fun b hb => ?_
  refine (Assertions.ofOptions_describes (o.get "assertions")).bind fun a ha => ?_
  refine (KeyValue.ofOptions_describes.entities .request "parameters" _).bind
    fun _ hparameters => ?_
  refine (KeyValue.ofOptions_describes.entities .request "headers" _).bind fun _ hheaders => ?_
  exact .then fun _ =>
    .pure ⟨⟨drawn, rfl⟩, rfl, rfl, rfl, hparameters, hheaders, ⟨b, rfl, hb⟩, ⟨a, rfl, ha⟩, rfl⟩

theorem Scenario.ofOptions_describes :
    Describes Scenario.ofOptions (OfEntity Scenario.DescribedBy) := by
  refine .entity fun o => .then fun drawn => ?_
  refine (KeyValue.ofOptions_describes.entities .scenario "parameters" _).bind
    fun _ hparameters => ?_
  refine (KeyValue.ofOptions_describes.entities .scenario "headers" _).bind fun _ hheaders => ?_
  refine (Request.ofOptions_describes.entitiesOrDefault .scenario "requests" _).bind
    fun _ hrequests => ?_
  exact .then fun _ => .pure ⟨⟨drawn, rfl⟩, rfl, rfl, hparameters, hheaders, hrequests⟩

theorem Test.ofOptions_describedBy :
    Describes Test.ofOptions (OfEntity Test.DescribedBy) := by
  refine .entity fun o => ?_
  refine (Scenario.ofOptions_describes.entitiesOrDefault .test
    ((Options.find? o "scenario_definition" "scenarioDefinition").getD
      ("scenario_definition", .null)).1
    ((Options.find? o "scenario_definition" "scenarioDefinition").getD
      ("scenario_definition", .null)).2).bind fun _ hscenarios => ?_
  rw [Options.find?_getD] at hscenarios
  refine .then fun _ => .pure ⟨rfl, rfl, rfl, ?_, hscenarios⟩
  rw [← Options.find?_getD]
  cases Options.find? o "project_id" "projectId" <;> rfl

/-- The test that is built from options, whatever they are, is complete, and every part of it is as
the options have it. -/
theorem Test.ofOptions_complete {options : Value} {first : Int} {t : Test} {state : BuildState}
    (h : (Test.ofOptions options).outcome first = (.ok t, state)) :
    t.IsComplete ∧ OfEntity Test.DescribedBy options t := by
  have hdescribed : OfEntity Test.DescribedBy options t :=
    (Test.ofOptions_describedBy options).of_run h
  obtain ⟨o, ho⟩ := hdescribed.exists_options
  exact ⟨ho.isComplete, hdescribed⟩

/-- The requests of a test that was built from options have everything that such requests have. -/
theorem Test.built_of_outcome {v : Value} {first : Int} {t : Test} {state : BuildState}
    (h : (Test.ofOptions v).outcome first = (.ok t, state)) :
    ∀ s ∈ t.scenarios, ∀ r ∈ s.requests, r.Built := by
  obtain ⟨o, ho⟩ := ((Test.ofOptions_describedBy v).of_run h).exists_options
  exact fun s hs r hr => (ho.isComplete.complete s hs r hr).toBuilt

theorem Test.ofOptions_complete_sample :
    (Test.ofOptions sampleOptions).outcome 1 = (.ok sampleTest, { nextId := 4 }) ∧
      sampleTest.IsComplete ∧ OfEntity Test.DescribedBy sampleOptions sampleTest :=
  ⟨sampleTest_built, Test.ofOptions_complete sampleTest_built⟩

end LoadPlan
