import LoadPlan.Proofs.Plan.Compiled
import LoadPlan.Proofs.Plan.Sound

/-!
# The parts of plans can be written

Each property and each test element that plans are made of can be written, whatever values it has,
and so can the plan of every test (`compiledTest_sound`).
-/

namespace LoadPlan.Plan

open Xml (isPlainName)

/-! ## Names -/

theorem areNames_property : AreNames ["name"] := by
  decide +kernel

theorem areNames_argument : AreNames ["name", "elementType"] := by
  decide +kernel

theorem areNames_test : AreNames ["guiclass", "testclass", "testname", "enabled"] := by
  decide +kernel

theorem areNames_document : AreNames ["version", "properties", "jmeter"] := by
  decide +kernel

theorem areNames_fixed (gui test : String) (name : Option String) :
    AreNames ("name" :: "elementType" :: (fixedAttributes gui test name).map Prod.fst) := by
  cases name with
  | none =>
    change AreNames ["name", "elementType", "guiclass", "testclass", "enabled"]
    decide +kernel
  | some name =>
    change AreNames ["name", "elementType", "guiclass", "testclass", "testname", "enabled"]
    decide +kernel

/-! ## Properties -/

theorem make_isProperty {tag : String} (tagged : tag ∈ propertyTags)
    (attributes : List (String × Value)) (h : AreNames (attributes.map Prod.fst)) (text : Value) :
    (Element.make tag attributes text).IsProperty :=
  .mk tagged (attributesOf_sound h) (fun _ => isChar_of_planText?) (.inr rfl) (by simp)

theorem addAll_isProperty {e : Element} (he : e.IsProperty) (htext : e.text = none)
    {properties : List Element} (h : ∀ p ∈ properties, p.IsProperty) :
    (e.addAll properties).IsProperty := by
  obtain ⟨tagged, named, -, -, inside⟩ := he
  subst htext
  refine .mk tagged named (by simp) (.inl rfl) fun p hp => ?_
  exact (List.mem_append.mp hp).elim (inside p) (h p)

theorem property_isProperty {tag : String} (tagged : tag ∈ propertyTags) (name value : Value) :
    (property tag name value).IsProperty :=
  make_isProperty tagged [("name", name)] areNames_property value

@[simp]
theorem stringProp_isProperty (name : String) (value : Value) :
    (stringProp name value).IsProperty :=
  property_isProperty (by decide) _ _

@[simp]
theorem boolProp_isProperty (name : String) (value : Bool) : (boolProp name value).IsProperty :=
  property_isProperty (by decide) _ _

@[simp]
theorem intProp_isProperty (name : String) (value : Int) : (intProp name value).IsProperty :=
  property_isProperty (by decide) _ _

theorem collectionProp_isProperty (name : String) (items : List Element)
    (h : ∀ p ∈ items, p.IsProperty) : (collectionProp name items).IsProperty :=
  addAll_isProperty
    (make_isProperty (by decide) [("name", .text name)] areNames_property .null) rfl h

theorem elementProp_isProperty (name type : String) (attributes : List (String × Value))
    (properties : List Element)
    (hnames : AreNames ("name" :: "elementType" :: attributes.map Prod.fst))
    (h : ∀ p ∈ properties, p.IsProperty) :
    (elementProp name type attributes properties).IsProperty :=
  addAll_isProperty (make_isProperty (by decide) _ (by simpa using hnames) .null) rfl h

theorem fixedProp_isProperty (name type gui test : String) (label : Option String)
    (properties : List Element) (h : ∀ p ∈ properties, p.IsProperty) :
    (elementProp name type (fixedAttributes gui test label) properties).IsProperty :=
  elementProp_isProperty name type _ properties (areNames_fixed gui test label) h

/-- The arguments of an element that has none. -/
theorem noArguments_isProperty (name : String) : (collectionProp name []).IsProperty :=
  collectionProp_isProperty name [] (by simp)

@[simp]
theorem argument_isProperty (alwaysEncode : Value) (kv : KeyValue) :
    (argument alwaysEncode kv).IsProperty := by
  refine addAll_isProperty (make_isProperty (by decide)
    [("name", kv.name.orElse (.text "")), ("elementType", .text "HTTPArgument")]
    areNames_argument .null) rfl ?_
  intro p hp
  simp only [List.mem_append, List.mem_cons, List.not_mem_nil, or_false] at hp
  obtain ((rfl | rfl) | hp) | (rfl | rfl) := hp
  · exact property_isProperty (by decide) _ _
  · exact boolProp_isProperty _ _
  · split at hp
    · obtain rfl := List.mem_singleton.mp hp
      exact stringProp_isProperty _ _
    · simp at hp
  · exact stringProp_isProperty _ _
  · exact stringProp_isProperty _ _

@[simp]
theorem arguments_isProperty (kvs : List KeyValue) (alwaysEncode : Value) :
    (arguments kvs alwaysEncode).IsProperty :=
  fixedProp_isProperty _ _ _ _ _ _ (by simpa using collectionProp_isProperty _ _ (by simp))

@[simp]
theorem rawBodyProp_isProperty (raw : Value) : (rawBodyProp raw).IsProperty :=
  property_isProperty (by decide) _ _

@[simp]
theorem header_isProperty (kv : KeyValue) : (header kv).IsProperty :=
  elementProp_isProperty _ _ [] _ areNames_argument (by simp)

/-! ## Test elements -/

theorem standard_isTest {tag : String} (tagged : isPlainName tag.toList = true) (gui : String)
    (name : Value) {properties : List Element} (h : ∀ p ∈ properties, p.IsProperty) :
    (standard tag gui name properties).element.IsTest where
  tagged := tagged
  named := attributesOf_sound areNames_test
  bare := rfl
  inside := h

theorem addAll_isTest {e : Element} (he : e.IsTest) {properties : List Element}
    (h : ∀ p ∈ properties, p.IsProperty) : (e.addAll properties).IsTest where
  tagged := he.tagged
  named := he.named
  bare := he.bare
  inside p hp := (List.mem_append.mp hp).elim (he.inside p) (h p)

theorem testPlan_isTest (name comments : Value) : (testPlan name comments).element.IsTest := by
  have hvariables := fixedProp_isProperty "TestPlan.user_defined_variables" "Arguments"
    "ArgumentsPanel" "Arguments" (some "User Defined Variables")
    [collectionProp "Arguments.arguments" []] (by simpa using noArguments_isProperty _)
  exact standard_isTest rfl _ _ (by simpa using hvariables)

theorem threadGroup_isTest (name threads rampTime loops onSampleError : Value) :
    (threadGroup name threads rampTime loops onSampleError).element.IsTest := by
  have hloop := fixedProp_isProperty "ThreadGroup.main_controller" "LoopController"
    "LoopControlPanel" "LoopController" (some "Loop Controller")
    [boolProp "LoopController.continue_forever" false, stringProp "LoopController.loops" loops]
    (by simp)
  exact standard_isTest rfl _ _ (by simpa using hloop)

theorem headerManager_sound (name : Value) (headers : List KeyValue) :
    (headerManager name headers).Sound :=
  .mk (standard_isTest rfl _ _ (by simpa using collectionProp_isProperty _ _ (by simp)))
    (by simp)

theorem responseAssertion_sound (field : String) (name : Value) (testType : Int)
    (pattern message : Value) :
    (responseAssertion field name testType pattern message).Sound := by
  have hstrings := collectionProp_isProperty "Asserion.test_strings"
    [property "stringProp" (.int (Text.hash (patternText pattern))) (.text (patternText pattern))]
    (by simpa using property_isProperty (by decide) _ _)
  exact .mk (standard_isTest rfl _ _ (by simpa using hstrings)) (by simp)

theorem durationAssertion_sound (name duration : Value) :
    (durationAssertion name duration).Sound :=
  .mk (standard_isTest rfl _ _ (by simp)) (by simp)

theorem backendListener_sound (name listener : Value) : (backendListener name listener).Sound := by
  have harguments := fixedProp_isProperty "arguments" "Arguments" "ArgumentsPanel" "Arguments" none
    [collectionProp "Arguments.arguments" []] (by simpa using noArguments_isProperty _)
  exact .mk (standard_isTest rfl _ _ (by simpa using harguments)) (by simp)

/-! ## Compiled parts -/

theorem payload_isProperty (r : Request) (get : Bool) :
    ∀ p ∈ (payload r get).part, p.IsProperty := by
  unfold payload
  split
  · simp
  · split
    · dsimp only
      split <;> simp
    · split
      · simp
      · split <;> simp

theorem endpointSampler_isTest (name : Value) (e : Endpoint) :
    (endpointSampler name e).element.IsTest := by
  unfold endpointSampler
  split <;> exact standard_isTest rfl _ _ (by simp)

/-- A test element that a sampler can own. -/
inductive IsDetail : TestElement → Prop
  | headers (name : Value) (entries : List KeyValue) : IsDetail (headerManager name entries)
  | regex (field : String) (name : Value) (type : Int) (pattern message : Value) :
      IsDetail (responseAssertion field name type pattern message)
  | duration (name value : Value) : IsDetail (durationAssertion name value)

theorem IsDetail.sound {t : TestElement} (h : IsDetail t) : t.Sound := by
  cases h with
  | headers name entries => exact headerManager_sound name entries
  | regex field name type pattern message =>
    exact responseAssertion_sound field name type pattern message
  | duration name value => exact durationAssertion_sound name value

theorem headersOf_isDetail (r : Request) : ∀ t ∈ (headersOf r).part, IsDetail t := by
  unfold headersOf
  dsimp only
  split
  · simp
  · simpa using .headers _ _

theorem regexPart?_isDetail {a : RegexAssertion} {t : TestElement} (h : regexPart? a = some t) :
    IsDetail t := by
  rw [regexPart?, Option.map_eq_some_iff] at h
  obtain ⟨subject, -, rfl⟩ := h
  exact .regex _ _ _ _ _

theorem durationOf_isDetail (a : Assertions) : ∀ t ∈ (durationOf a).part, IsDetail t := by
  unfold durationOf
  split
  · split
    · simpa using .duration _ _
    · simp
  · simp

/-- The headers and assertions of a request. -/
def details (r : Request) : List TestElement :=
  (headersOf r).part ++ (assertionParts r).part

theorem details_isDetail (r : Request) : ∀ t ∈ details r, IsDetail t := by
  intro t ht
  obtain ht | ht := List.mem_append.mp ht
  · exact headersOf_isDetail r t ht
  · unfold assertionParts at ht
    split at ht
    · simp at ht
    · obtain ht | ht := List.mem_append.mp ht
      · obtain ⟨a, -, ha⟩ := List.mem_filterMap.mp ht
        exact regexPart?_isDetail ha
      · exact durationOf_isDetail _ t ht

theorem compiledRequest_sound (r : Request) (get : Bool) :
    (compiledRequest r get).part.Sound :=
  .mk (addAll_isTest (endpointSampler_isTest _ _) (payload_isProperty r get))
    fun t ht => (details_isDetail r t ht).sound

theorem scenarioPart_sound (settings : Settings) (s : Scenario) :
    (scenarioPart settings s).part.Sound := by
  refine .mk (threadGroup_isTest _ _ _ _ _) fun t ht => ?_
  obtain ht | ht := List.mem_append.mp ht
  · obtain ⟨c, hc, rfl⟩ := List.mem_map.mp ht
    obtain ⟨r, -, rfl⟩ := List.mem_map.mp hc
    exact compiledRequest_sound r _
  · obtain rfl := List.mem_singleton.mp ht
    exact backendListener_sound _ _

/-- The plan of a test can be written. -/
theorem compiledTest_sound (settings : Settings) (t : Test) :
    (compiledTest settings t).part.Sound where
  named := attributesOf_sound areNames_document
  inside := by
    intro root hroot
    obtain rfl := List.mem_singleton.mp hroot
    refine .mk (testPlan_isTest _ _) fun group hgroup => ?_
    obtain ⟨c, hc, rfl⟩ := List.mem_map.mp hgroup
    obtain ⟨s, -, rfl⟩ := List.mem_map.mp hc
    exact scenarioPart_sound settings s

end LoadPlan.Plan
