import LoadPlan.Plan.Compile
import LoadPlan.Proofs.Scenario.Described

/-!
# What is only for display

Ids, the version and the project of a test, the URL, parameters and headers of a scenario, what a
request takes out of its response, text assertions and options that no entity has are there for a
reader of the test. Two values of options that differ in nothing else are rendered to the same plan,
with the same notices, or fail with the same fault; how many ids are drawn for either, and which,
does not matter.
-/

namespace LoadPlan

/-! ## Values that agree on what is compiled -/

namespace Options

/-- The options that a value holds: those of a mapping, and none otherwise. -/
def optionsOf : Value → Entries
  | .mapping o => o
  | _ => []

/-- The members that a value holds: those of a list, and none otherwise. -/
def membersOf : Value → List Value
  | .list items => items
  | _ => []

/-- The option of a value with a key. -/
def option (v : Value) (key : String) : Value :=
  (optionsOf v).get key

/-- Values with the same options under some keys. -/
def AgreeOn (keys : List String) (v w : Value) : Prop :=
  ∀ key ∈ keys, option v key = option w key

/-- Lists whose members are related one by one. -/
def AgreeInside (R : Value → Value → Prop) (v w : Value) : Prop :=
  List.Forall₂ R (membersOf v) (membersOf w)

/-- Bodies that send the same. -/
structure SameBody (v w : Value) : Prop where
  own : AgreeOn ["type", "raw"] v w
  kvs : AgreeInside (AgreeOn ["name", "value"]) (option v "kvs") (option w "kvs")

/-- Assertions that check the same, apart from text assertions. -/
structure SameAssertions (v w : Value) : Prop where
  regex : AgreeInside (AgreeOn ["subject", "expression", "description"])
    (option v "regex") (option w "regex")
  duration : AgreeOn ["value"] (option v "duration") (option w "duration")

/-- Requests that send and check the same. -/
structure SameRequest (v w : Value) : Prop where
  own : AgreeOn ["name", "url", "method"] v w
  parameters : AgreeInside (AgreeOn ["name", "value"]) (option v "parameters")
    (option w "parameters")
  headers : AgreeInside (AgreeOn ["name", "value"]) (option v "headers") (option w "headers")
  body : SameBody (option v "body") (option w "body")
  assertions : SameAssertions (option v "assertions") (option w "assertions")

/-- Scenarios with the same name whose requests send and check the same. -/
structure SameScenario (v w : Value) : Prop where
  own : AgreeOn ["name"] v w
  requests : AgreeInside SameRequest (orDefault (option v "requests"))
    (orDefault (option w "requests"))

/-- Tests that differ at most in what is for display. -/
structure SameTest (v w : Value) : Prop where
  own : AgreeOn ["name"] v w
  scenarios : AgreeInside SameScenario
    (orDefault (getEither (optionsOf v) "scenario_definition" "scenarioDefinition"))
    (orDefault (getEither (optionsOf w) "scenario_definition" "scenarioDefinition"))

section

variable {α β : Type} {v w : Value} {as bs : List α}

theorem OfEntity.options {P : Entries → α → Prop} {a : α} (h : OfEntity P v a) :
    P (optionsOf v) a := by
  cases h with
  | null h => exact h
  | mapping h => exact h

variable {P : Value → α → Prop} {R : Value → Value → Prop}

theorem Listed.members (h : Listed P v as) : List.Forall₂ P (membersOf v) as := by
  cases h with
  | null => exact .nil
  | list h => exact h

theorem ListedOrDefault.members (h : ListedOrDefault P v as) :
    List.Forall₂ P (membersOf (orDefault v)) as := by
  unfold orDefault Value.orElse
  cases h with
  | given hv h =>
    rw [if_pos hv]
    exact h.members
  | default hv h =>
    rw [if_neg (Bool.eq_false_iff.mp hv)]
    exact .cons h .nil

/-- Entities from related values look the same if any two of them do. -/
theorem map_eq_of_related {f : α → β} {xs ys : List Value} (has : List.Forall₂ P xs as)
    (hbs : List.Forall₂ P ys bs) (h : List.Forall₂ R xs ys)
    (hf : ∀ v w a b, R v w → P v a → P w b → f a = f b) : as.map f = bs.map f := by
  induction h generalizing as bs with
  | nil =>
    cases has
    cases hbs
    rfl
  | cons hhead _ ih =>
    cases has with
    | cons ha has =>
      cases hbs with
      | cons hb hbs => rw [List.map_cons, List.map_cons, hf _ _ _ _ hhead ha hb, ih has hbs]

theorem eq_of_related (has : Listed P v as) (hbs : Listed P w bs) (h : AgreeInside R v w)
    (hf : ∀ v w a b, R v w → P v a → P w b → a = b) : as = bs := by
  have hmap : as.map id = bs.map id := map_eq_of_related has.members hbs.members h hf
  rwa [List.map_id, List.map_id] at hmap

end

end Options

open Options

/-! ## Tests without what is for display -/

/-- A request without what is only for display. -/
def Request.plain (r : Request) : Request :=
  { r with
    id := .null
    extract := []
    assertions := r.assertions.map fun a => { a with text := [] } }

/-- A scenario without what is only for display. -/
def Scenario.plain (s : Scenario) : Scenario where
  name := s.name
  requests := s.requests.map Request.plain

/-- A test without what is only for display. -/
def Test.plain (t : Test) : Test where
  name := t.name
  scenarios := t.scenarios.map Scenario.plain

section Built

variable {v w : Value}

theorem KeyValue.eq_of_agree (kv kv' : KeyValue) (h : AgreeOn ["name", "value"] v w)
    (hkv : OfEntity KeyValue.DescribedBy v kv) (hkv' : OfEntity KeyValue.DescribedBy w kv') :
    kv = kv' := by
  have hname : kv.name = kv'.name := by
    rw [hkv.options.name, hkv'.options.name]
    exact h "name" (by simp)
  have hvalue : kv.value = kv'.value := by
    rw [hkv.options.value, hkv'.options.value]
    exact h "value" (by simp)
  cases kv
  cases kv'
  congr

theorem KeyValue.list_eq_of_agree {kvs kvs' : List KeyValue}
    (h : AgreeInside (AgreeOn ["name", "value"]) v w)
    (hkvs : Listed (OfEntity KeyValue.DescribedBy) v kvs)
    (hkvs' : Listed (OfEntity KeyValue.DescribedBy) w kvs') : kvs = kvs' :=
  eq_of_related hkvs hkvs' h fun _ _ kv kv' => KeyValue.eq_of_agree kv kv'

theorem RegexAssertion.eq_of_agree (a a' : RegexAssertion)
    (h : AgreeOn ["subject", "expression", "description"] v w)
    (ha : OfEntity RegexAssertion.DescribedBy v a)
    (ha' : OfEntity RegexAssertion.DescribedBy w a') : a = a' := by
  have hsubject : a.subject = a'.subject := by
    rw [ha.options.subject, ha'.options.subject]
    exact h "subject" (by simp)
  have hexpression : a.expression = a'.expression := by
    rw [ha.options.expression, ha'.options.expression]
    exact h "expression" (by simp)
  have hdescription : a.description = a'.description := by
    rw [ha.options.description, ha'.options.description]
    exact h "description" (by simp)
  cases a
  cases a'
  congr

theorem ResponseTime.eq_of_agree {t t' : ResponseTime} (h : AgreeOn ["value"] v w)
    (ht : OfEntity ResponseTime.DescribedBy v t) (ht' : OfEntity ResponseTime.DescribedBy w t') :
    t = t' := by
  have hvalue : t.value = t'.value := by
    rw [ht.options.value, ht'.options.value]
    exact h "value" (by simp)
  cases t
  cases t'
  congr

theorem Body.eq_of_same {b b' : Body} (h : SameBody v w) (hb : OfEntity Body.DescribedBy v b)
    (hb' : OfEntity Body.DescribedBy w b') : b = b' := by
  have htype : b.type = b'.type := by
    rw [hb.options.type, hb'.options.type]
    exact h.own "type" (by simp)
  have hraw : b.raw = b'.raw := by
    rw [hb.options.raw, hb'.options.raw]
    exact h.own "raw" (by simp)
  have hkvs : b.kvs = b'.kvs := KeyValue.list_eq_of_agree h.kvs hb.options.kvs hb'.options.kvs
  cases b
  cases b'
  congr

/-- Assertions from related options are the same, apart from text assertions. -/
theorem Assertions.plain_eq_of_same {a a' : Assertions} (h : SameAssertions v w)
    (ha : OfEntity Assertions.DescribedBy v a) (ha' : OfEntity Assertions.DescribedBy w a') :
    { a with text := [] } = { a' with text := [] } := by
  have hregex : a.regex = a'.regex :=
    eq_of_related ha.options.regex ha'.options.regex h.regex
      fun _ _ r r' => RegexAssertion.eq_of_agree r r'
  obtain ⟨t, ht, hdescribed⟩ := ha.options.duration
  obtain ⟨t', ht', hdescribed'⟩ := ha'.options.duration
  have hduration : a.duration = a'.duration := by
    rw [ht, ht', ResponseTime.eq_of_agree h.duration hdescribed hdescribed']
  rw [hregex, hduration]

theorem Request.plain_eq_of_same (r r' : Request) (h : SameRequest v w)
    (hr : OfEntity Request.DescribedBy v r) (hr' : OfEntity Request.DescribedBy w r') :
    r.plain = r'.plain := by
  have hname : r.name = r'.name := by
    rw [hr.options.name, hr'.options.name]
    exact h.own "name" (by simp)
  have hurl : r.url = r'.url := by
    rw [hr.options.url, hr'.options.url]
    exact h.own "url" (by simp)
  have hmethod : r.method = r'.method := by
    rw [hr.options.method, hr'.options.method]
    exact congrArg (Value.orElse · (.text "GET")) (h.own "method" (by simp))
  have hparameters : r.parameters = r'.parameters :=
    KeyValue.list_eq_of_agree h.parameters hr.options.parameters hr'.options.parameters
  have hheaders : r.headers = r'.headers :=
    KeyValue.list_eq_of_agree h.headers hr.options.headers hr'.options.headers
  obtain ⟨b, hb, hdescribed⟩ := hr.options.body
  obtain ⟨b', hb', hdescribed'⟩ := hr'.options.body
  have hbody : r.body = r'.body := by
    rw [hb, hb', Body.eq_of_same h.body hdescribed hdescribed']
  obtain ⟨a, ha, hdescribed⟩ := hr.options.assertions
  obtain ⟨a', ha', hdescribed'⟩ := hr'.options.assertions
  unfold plain
  rw [hname, hurl, hmethod, hparameters, hheaders, hbody, ha, ha', Option.map_some,
    Option.map_some, Assertions.plain_eq_of_same h.assertions hdescribed hdescribed']

theorem Scenario.plain_eq_of_same (s s' : Scenario) (h : SameScenario v w)
    (hs : OfEntity Scenario.DescribedBy v s) (hs' : OfEntity Scenario.DescribedBy w s') :
    s.plain = s'.plain := by
  have hname : s.name = s'.name := by
    rw [hs.options.name, hs'.options.name]
    exact h.own "name" (by simp)
  have hrequests : s.requests.map Request.plain = s'.requests.map Request.plain :=
    map_eq_of_related hs.options.requests.members hs'.options.requests.members h.requests
      fun _ _ r r' => Request.plain_eq_of_same r r'
  unfold plain
  rw [hname, hrequests]

theorem Test.plain_eq_of_same {t t' : Test} (h : SameTest v w)
    (ht : OfEntity Test.DescribedBy v t) (ht' : OfEntity Test.DescribedBy w t') :
    t.plain = t'.plain := by
  have hname : t.name = t'.name := by
    rw [ht.options.name, ht'.options.name]
    exact h.own "name" (by simp)
  have hscenarios : t.scenarios.map Scenario.plain = t'.scenarios.map Scenario.plain :=
    map_eq_of_related ht.options.scenarios.members ht'.options.scenarios.members h.scenarios
      fun _ _ s s' => Scenario.plain_eq_of_same s s'
  unfold plain
  rw [hname, hscenarios]

end Built

namespace Plan

/-! ## Compiling without what is for display -/

@[simp]
theorem compileRequest_plain (r : Request) : compileRequest r.plain = compileRequest r := by
  have hassertions : assertionsOf r.plain = assertionsOf r := by
    unfold assertionsOf Request.plain
    cases r.assertions <;> rfl
  unfold compileRequest
  rw [hassertions]
  rfl

@[simp]
theorem compileScenario_plain (settings : Settings) (s : Scenario) :
    compileScenario settings s.plain = compileScenario settings s := by
  have hrequest : compileRequest ∘ Request.plain = compileRequest := funext compileRequest_plain
  unfold compileScenario Scenario.plain
  rw [List.mapM_map, hrequest]

@[simp]
theorem compile_plain (settings : Settings) (t : Test) :
    compile settings t.plain = compile settings t := by
  have hscenario : compileScenario settings ∘ Scenario.plain = compileScenario settings :=
    funext (compileScenario_plain settings)
  unfold compile Test.plain
  rw [List.mapM_map, hscenario]

@[simp]
theorem toXml_plain (settings : Settings) (t : Test) :
    toXml settings t.plain = toXml settings t := by
  unfold toXml
  rw [compile_plain]

/-- What is only for display does not reach the plan. -/
theorem toXml_ignores_display {v w : Value} {first first' : Int} {t t' : Test}
    {state state' : BuildState} (ht : (Test.ofOptions v).outcome first = (.ok t, state))
    (ht' : (Test.ofOptions w).outcome first' = (.ok t', state')) (hsame : SameTest v w)
    (settings : Settings) : (toXml settings t).outcome = (toXml settings t').outcome := by
  have hdescribed : OfEntity Test.DescribedBy v t := (Test.ofOptions_describedBy v).of_run ht
  have hdescribed' : OfEntity Test.DescribedBy w t' :=
    (Test.ofOptions_describedBy w).of_run ht'
  rw [← toXml_plain settings t, ← toXml_plain settings t',
    Test.plain_eq_of_same hsame hdescribed hdescribed']

/-- Options that differ from the other ones only in what is for display. -/
def annotatedOptions : Value :=
  .mapping
    [(.text "version", .text "2.1"), (.text "name", .text "sample"), (.text "id", .int 7),
     (.text "projectId", .text "p"), (.text "owner", .text "a reader"),
     (.text "scenarioDefinition", .list
       [.mapping
         [(.text "id", .null), (.text "url", .text "http://h/"),
          (.text "headers", .list [.mapping [(.text "name", .text "Accept")]]),
          (.text "parameters", .list [.null]),
          (.text "requests", .list
           [.mapping
             [(.text "method", .text "get"), (.text "id", .text "first"),
              (.text "parameters", .list
                [.null, .mapping [(.text "name", .text "q"), (.text "note", .text "a query")]])],
            .mapping
             [(.text "extract", .list [.text "token"]),
              (.text "method", .text "POST"),
              (.text "headers", .list [.mapping [(.text "value", .int 1)], .null]),
              (.text "body", .mapping [(.text "raw", .text "<&>")]),
              (.text "assertions", .mapping
                [(.text "text", .list [.mapping [(.text "value", .text "OK")]]),
                 (.text "duration", .mapping [(.text "value", .int 200)]),
                 (.text "regex", .list
                   [.mapping
                     [(.text "subject", .text "Response Code"),
                      (.text "expression", .text "2..")],
                    .mapping
                     [(.text "subject", .text "Response Time"),
                      (.text "expression", .text "1")]])])]])]])]

theorem annotatedOptions_accepted :
    ∃ t state, (Test.ofOptions annotatedOptions).outcome 5 = (.ok t, state) :=
  ⟨_, _, rfl⟩

theorem annotatedOptions_same : SameTest sampleOptions annotatedOptions := by
  have agree : ∀ {keys : List String} {v w : Value},
      keys.map (option v) = keys.map (option w) → AgreeOn keys v w := List.map_inj_left.mp
  refine ⟨agree rfl, .cons ⟨agree rfl, .cons ?first (.cons ?second .nil)⟩ .nil⟩
  case first =>
    exact {
      own := agree rfl
      parameters := .cons (agree rfl) (.cons (agree rfl) .nil)
      headers := .nil
      body := ⟨agree rfl, .nil⟩
      assertions := ⟨.nil, agree rfl⟩ }
  case second =>
    exact {
      own := agree rfl
      parameters := .nil
      headers := .cons (agree rfl) (.cons (agree rfl) .nil)
      body := ⟨agree rfl, .nil⟩
      assertions := ⟨.cons (agree rfl) (.cons (agree rfl) .nil), agree rfl⟩ }

theorem toXml_ignores_display_annotated :
    SameTest sampleOptions annotatedOptions ∧
      ∃ t state, (Test.ofOptions annotatedOptions).outcome 5 = (.ok t, state) ∧
        (toXml {} sampleTest).outcome = (toXml {} t).outcome := by
  obtain ⟨t, state, ht⟩ := annotatedOptions_accepted
  have heq := toXml_ignores_display sampleTest_built ht annotatedOptions_same {}
  exact ⟨annotatedOptions_same, t, state, ht, heq⟩

end Plan

end LoadPlan
