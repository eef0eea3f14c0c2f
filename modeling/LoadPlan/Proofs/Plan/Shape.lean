import LoadPlan.Plan.Review
import LoadPlan.Proofs.Plan.Compiled
import LoadPlan.Proofs.Plan.Sound
import LoadPlan.Proofs.Scenario.Described

/-!
# The shape of a plan

The tree of a compiled test, described by what a reader finds in it: a thread group for each
scenario, a sampler for each request, and under each sampler its headers and assertions, all of them
followed by a tree of their own. The descriptions use lookups of properties only.
-/

namespace LoadPlan.Plan

open Xml (Node)

/-! ## Looking into elements -/

/-- The items of a collection that an element holds. -/
def itemsOf (n : Node) (collection : String) : List Node :=
  ((property? n "collectionProp" collection).map Node.children).getD []

/-- The texts of two properties of an element. -/
def pairOf (first second : String) (n : Node) : String × String :=
  (propertyText n first, propertyText n second)

/-- The property that holds the arguments of a sampler. -/
def argumentsOf? (sampler : Node) : Option Node :=
  property? sampler "elementProp" "HTTPsampler.Arguments"

/-- The elements of the arguments of a sampler. -/
def argumentItems (sampler : Node) : List Node :=
  ((argumentsOf? sampler).map (itemsOf · "Arguments.arguments")).getD []

/-- The names and values of the arguments of a sampler. -/
def argumentTexts (sampler : Node) : List (String × String) :=
  (((argumentsOf? sampler).map (itemsOf · "Arguments.arguments")).getD []).map
    (pairOf "Argument.name" "Argument.value")

/-- Elements in a row, each followed by the tree of those it owns. -/
inductive Pairs {α : Type} (P : α → Node → List Node → Prop) : List α → List Node → Prop
  | nil : Pairs P [] []
  | cons {a : α} {as : List α} {item : Node} {owned rest : List Node} :
      P a item owned → Pairs P as rest → Pairs P (a :: as) (item :: hashTree owned :: rest)

/-! ## Descriptions -/

/-- The name and the value of an entry, as texts. -/
def entryTexts (kv : KeyValue) : String × String :=
  (planText kv.name, planText kv.value)

/-- The name and the value of an argument, as texts; a name that is not given is empty. -/
def argumentEntry (kv : KeyValue) : String × String :=
  (planText (kv.name.orElse (.text "")), planText kv.value)

/-- The headers of a sampler. -/
structure IsHeaderManager (headers : List KeyValue) (item : Node) (owned : List Node) : Prop where
  tag : item.tag = "HeaderManager"
  entries : (itemsOf item "HeaderManager.headers").map (pairOf "Header.name" "Header.value") =
    headers.map entryTexts
  owned : owned = []

/-- An assertion on a regular expression. -/
structure IsRegexAssertion (r : RegexAssertion) (item : Node) (owned : List Node) : Prop where
  tag : item.tag = "ResponseAssertion"
  field : ∃ subject, Subject.ofValue? r.subject = some subject ∧
    propertyText item "Assertion.test_field" = fieldOf subject
  type : (property? item "intProp" "Assertion.test_type").map Node.ownText =
    some (toString matchType)
  patterns : (itemsOf item "Asserion.test_strings").map Node.ownText = [patternText r.expression]
  owned : owned = []

/-- An assertion on the duration. -/
structure IsDurationAssertion (t : ResponseTime) (item : Node) (owned : List Node) : Prop where
  tag : item.tag = "DurationAssertion"
  duration : propertyText item "DurationAssertion.duration" = planText t.value
  owned : owned = []

/-- The lists of headers that a request needs a manager for: the valid ones, if there are any. -/
def headerLists (r : Request) : List (List KeyValue) :=
  if (validOnly r.headers).isEmpty then [] else [validOnly r.headers]

/-- The assertions on regular expressions that are valid and look at a known part of the
response. -/
def checkedRegexes (r : Request) : List RegexAssertion :=
  ((r.assertions.map (·.regex)).getD []).filter fun a =>
    a.isValid && (Subject.ofValue? a.subject).isSome

/-- The duration of a request, if it is valid. -/
def checkedDurations (r : Request) : List ResponseTime :=
  ((r.assertions.bind (·.duration)).filter ResponseTime.isValid).toList

/-- The entries that a request sends: the valid parameters of a GET, else the valid entries of its
body, or its raw body without a name. -/
def sentEntries (r : Request) (get : Bool) : List KeyValue :=
  if get then validOnly r.parameters
  else
    match r.body with
    | none => []
    | some body => if body.isKeyValue then validOnly body.kvs else [⟨.text "", body.raw⟩]

/-- The names of the properties that every sampler has. -/
def samplerNames : List String :=
  ["HTTPSampler.domain", "HTTPSampler.port", "HTTPSampler.protocol", "HTTPSampler.path",
   "HTTPSampler.method", "HTTPSampler.contentEncoding", "HTTPSampler.follow_redirects",
   "HTTPSampler.use_keepalive"]

/-- The names of the properties that hold what a request sends. -/
def sentNames (r : Request) (get : Bool) : List String :=
  if get then if r.parameters.any KeyValue.isValid then ["HTTPsampler.Arguments"] else []
  else ["HTTPSampler.postBodyRaw", "HTTPsampler.Arguments"]

/-- A sampler of a request. -/
structure IsSampler (r : Request) (item : Node) (owned : List Node) : Prop where
  tag : item.tag = "HTTPSamplerProxy"
  method : propertyText item "HTTPSampler.method" = planText r.method
  arguments : ∃ get, r.isGet = .ok get ∧
    item.children.filterMap (·.attribute? "name") = samplerNames ++ sentNames r get ∧
    ((argumentsOf? item).isSome = true ↔ get = false ∨ ∃ kv ∈ r.parameters, kv.isValid = true) ∧
    argumentTexts item = (sentEntries r get).map argumentEntry
  owned : ∃ headers regexes durations, owned = headers ++ (regexes ++ durations) ∧
    Pairs IsHeaderManager (headerLists r) headers ∧
    Pairs IsRegexAssertion (checkedRegexes r) regexes ∧
    Pairs IsDurationAssertion (checkedDurations r) durations

/-- The thread group of a scenario: a sampler for each request, and a listener at the end. -/
structure IsThreadGroup (settings : Settings) (s : Scenario) (item : Node) (owned : List Node) :
    Prop where
  tag : item.tag = "ThreadGroup"
  threads : propertyText item "ThreadGroup.num_threads" = planText settings.threads
  rampTime : propertyText item "ThreadGroup.ramp_time" = planText settings.rampTime
  onSampleError : propertyText item "ThreadGroup.on_sample_error" = planText settings.onSampleError
  loops : (property? item "elementProp" "ThreadGroup.main_controller").map
    (propertyText · "LoopController.loops") = some (planText settings.loops)
  owned : ∃ samplers listener, owned = samplers ++ [listener, hashTree []] ∧
    Pairs IsSampler s.requests samplers ∧ listener.tag = "BackendListener" ∧
    propertyText listener "classname" = planText settings.listener

/-- The tree of a test: a thread group for each scenario. -/
structure IsPlan (settings : Settings) (t : Test) (root : Node) : Prop where
  tag : root.tag = "jmeterTestPlan"
  content : ∃ plan groups, root.content = [hashTree [plan, hashTree groups]] ∧
    plan.tag = "TestPlan" ∧ Pairs (IsThreadGroup settings) t.scenarios groups

/-! ## Lookups -/

@[simp]
theorem ownText_property (tag : String) (name value : Value) :
    (property tag name value).toNode.ownText = planText value := by
  unfold property Element.make Element.toNode planText
  cases h : value.planText? with
  | none => rfl
  | some s =>
    by_cases hs : s = ""
    · simp [textContent, nodesOf, Node.ownText, Node.content, Node.leadingText, hs]
    · simp [textContent, nodesOf, Node.ownText, Node.content, Node.leadingText, hs]

@[simp]
theorem ownText_stringProp (name : String) (value : Value) :
    (stringProp name value).toNode.ownText = planText value := by
  rw [stringProp, ownText_property]
  cases value <;> rfl

theorem propertyText_of_stringProp {n : Node} {name : String} {value : Value}
    (h : property? n "stringProp" name = some (stringProp name value).toNode) :
    propertyText n name = planText value := by
  rw [propertyText, h]
  exact ownText_stringProp name value

@[simp]
theorem children_toNode (e : Element) : e.toNode.children = e.properties.map Element.toNode := by
  obtain ⟨tag, attributes, text, properties⟩ := e
  have helements : (properties.map Element.toNode).filter Node.isElement =
      properties.map Element.toNode := by
    simp [List.filter_map, Function.comp_def]
  rw [Element.toNode, Node.children, Node.content, List.filter_append, nodesOf_eq_map, helements]
  fun_cases textContent text <;> simp [Node.isElement]

theorem itemsOf_of_collection {n : Node} {name : String} (items : List Element)
    (h : property? n "collectionProp" name = some (collectionProp name items).toNode) :
    itemsOf n name = items.map Element.toNode := by
  rw [itemsOf, h]
  exact children_toNode _

@[simp]
theorem property?_addAll (e : Element) (properties : List Element) (tag name : String) :
    property? (e.addAll properties).toNode tag name =
      (property? e.toNode tag name).or
        ((properties.map Element.toNode).find? fun c =>
          c.tag == tag && c.attribute? "name" == some name) := by
  simp [property?, Element.addAll, List.find?_append]

/-! ## Headers and assertions -/

theorem pairOf_header (kv : KeyValue) :
    pairOf "Header.name" "Header.value" (header kv).toNode = entryTexts kv := by
  have hname : propertyText (header kv).toNode "Header.name" = planText kv.name :=
    propertyText_of_stringProp rfl
  have hvalue : propertyText (header kv).toNode "Header.value" = planText kv.value :=
    propertyText_of_stringProp rfl
  rw [pairOf, hname, hvalue]
  rfl

theorem headerManager_isHeaderManager (name : Value) (headers : List KeyValue) :
    IsHeaderManager headers (headerManager name headers).element.toNode [] where
  tag := rfl
  entries := by
    have hitems : itemsOf (headerManager name headers).element.toNode "HeaderManager.headers" =
        (headers.map header).map Element.toNode := itemsOf_of_collection _ rfl
    rw [hitems, List.map_map, List.map_map]
    exact List.map_congr_left fun kv _ => pairOf_header kv
  owned := rfl

theorem planText_patternText (v : Value) : planText (.text (patternText v)) = patternText v := by
  have hchars : ∀ c ∈ (patternText v).toList, Xml.isChar c = true := by
    unfold patternText
    split <;> simp
  change String.ofList ((patternText v).toList.filter Xml.isChar) = patternText v
  rw [List.filter_eq_self.mpr hchars, String.ofList_toList]

theorem responseAssertion_isRegexAssertion {r : RegexAssertion} {subject : Subject}
    (h : Subject.ofValue? r.subject = some subject) (name : Value) :
    IsRegexAssertion r
      (responseAssertion (fieldOf subject) name matchType r.expression .null).element.toNode
      [] where
  tag := rfl
  field := by
    refine ⟨subject, h, (propertyText_of_stringProp rfl).trans ?_⟩
    cases subject <;> rfl
  type := by
    have htype : property? (responseAssertion (fieldOf subject) name matchType r.expression
        .null).element.toNode "intProp" "Assertion.test_type" =
          some (intProp "Assertion.test_type" matchType).toNode := rfl
    rw [htype, Option.map_some, intProp, ownText_property]
    rfl
  patterns := by
    rw [itemsOf_of_collection [property "stringProp" (.int (Text.hash (patternText r.expression)))
      (.text (patternText r.expression))] rfl]
    simp only [List.map_cons, List.map_nil, ownText_property, planText_patternText]
  owned := rfl

theorem durationAssertion_isDurationAssertion {t : ResponseTime} (h : t.isValid = true)
    (name : Value) : IsDurationAssertion t (durationAssertion name t.value).element.toNode [] where
  tag := rfl
  duration := by
    have hvalue : t.value.orElse (.int 0) = t.value := if_pos h
    have htext : propertyText (durationAssertion name t.value).element.toNode
        "DurationAssertion.duration" = planText (t.value.orElse (.int 0)) :=
      propertyText_of_stringProp rfl
    rw [htext, hvalue]
  owned := rfl

/-! ## Samplers -/

theorem pairOf_argument (alwaysEncode : Value) (kv : KeyValue) :
    pairOf "Argument.name" "Argument.value" (argument alwaysEncode kv).toNode =
      argumentEntry kv := by
  have htexts : propertyText (argument alwaysEncode kv).toNode "Argument.name" =
        planText (kv.name.orElse (.text "")) ∧
      propertyText (argument alwaysEncode kv).toNode "Argument.value" = planText kv.value := by
    unfold argument
    by_cases hname : (kv.name.orElse (.text "")).isTruthy = true
    · simp only [hname]
      exact ⟨propertyText_of_stringProp rfl, propertyText_of_stringProp rfl⟩
    · have hempty : kv.name.orElse (.text "") = .text "" := by
        by_cases hgiven : kv.name.isTruthy = true
        · simp [Value.orElse, hgiven] at hname
        · simp [Value.orElse, hgiven]
      simp only [hempty]
      exact ⟨rfl, propertyText_of_stringProp rfl⟩
  exact Prod.ext htexts.1 htexts.2

theorem argumentItems_of_arguments {sampler : Node} {kvs : List KeyValue} {alwaysEncode : Value}
    (h : argumentsOf? sampler = some (arguments kvs alwaysEncode).toNode) :
    argumentItems sampler = kvs.map fun kv => (argument alwaysEncode kv).toNode := by
  have hitems : itemsOf (arguments kvs alwaysEncode).toNode "Arguments.arguments" =
      (kvs.map (argument alwaysEncode)).map Element.toNode := itemsOf_of_collection _ rfl
  rw [argumentItems, h, Option.map_some, Option.getD_some, hitems, List.map_map]
  rfl

theorem argumentTexts_of_arguments {sampler : Node} {kvs : List KeyValue} {alwaysEncode : Value}
    (h : argumentsOf? sampler = some (arguments kvs alwaysEncode).toNode) :
    argumentTexts sampler = kvs.map argumentEntry := by
  have htexts : argumentTexts sampler =
      (argumentItems sampler).map (pairOf "Argument.name" "Argument.value") := rfl
  rw [htexts, argumentItems_of_arguments h, List.map_map]
  exact List.map_congr_left fun kv _ => pairOf_argument alwaysEncode kv

section Sampler

variable (name : Value) (e : Endpoint)

@[simp]
theorem endpointSampler_tag : (endpointSampler name e).element.tag = "HTTPSamplerProxy" := by
  unfold endpointSampler
  split <;> rfl

@[simp]
theorem endpointSampler_names :
    (endpointSampler name e).element.toNode.children.filterMap (·.attribute? "name") =
      samplerNames := by
  unfold endpointSampler
  split <;> rfl

@[simp]
theorem endpointSampler_method :
    property? (endpointSampler name e).element.toNode "stringProp" "HTTPSampler.method" =
      some (stringProp "HTTPSampler.method" e.method).toNode := by
  unfold endpointSampler
  split <;> rfl

@[simp]
theorem endpointSampler_arguments :
    property? (endpointSampler name e).element.toNode "elementProp" "HTTPsampler.Arguments" =
      none := by
  unfold endpointSampler
  split <;> rfl

end Sampler

/-! ## Rows of elements -/

@[simp]
theorem ownedNodes_append (ts us : List TestElement) :
    ownedNodes (ts ++ us) = ownedNodes ts ++ ownedNodes us := by
  simp [ownedNodes_eq_flatMap]

section Rows

variable {α : Type} {P : α → Node → List Node → Prop}

theorem pairs_filterMap {f : α → Option TestElement} {p : α → Bool} {as : List α}
    (hp : ∀ a, (f a).isSome = p a)
    (h : ∀ a ∈ as, ∀ t, f a = some t → P a t.element.toNode (ownedNodes t.owned)) :
    Pairs P (as.filter p) (ownedNodes (as.filterMap f)) := by
  induction as with
  | nil => exact .nil
  | cons a as ih =>
    have hrest := ih fun b hb => h b (List.mem_cons_of_mem a hb)
    cases hf : f a with
    | none =>
      rw [List.filterMap_cons_none hf, List.filter_cons_of_neg (by simp [← hp, hf])]
      exact hrest
    | some t =>
      have ht := h a List.mem_cons_self t hf
      obtain ⟨element, owned⟩ := t
      rw [List.filterMap_cons_some hf, List.filter_cons_of_pos (by simp [← hp, hf]), ownedNodes]
      exact .cons ht hrest

theorem pairs_map {f : α → TestElement} {as : List α}
    (h : ∀ a ∈ as, P a (f a).element.toNode (ownedNodes (f a).owned)) :
    Pairs P as (ownedNodes (as.map f)) := by
  have hall : ∀ a ∈ as, ∀ t, some (f a) = some t → P a t.element.toNode (ownedNodes t.owned) := by
    intro a ha t ht
    obtain rfl := Option.some.inj ht
    exact h a ha
  have := pairs_filterMap (p := fun _ => true) (by simp) hall
  simpa using this

end Rows

theorem headersOf_pairs (r : Request) :
    Pairs IsHeaderManager (headerLists r) (ownedNodes (headersOf r).part) := by
  unfold headersOf headerLists
  dsimp only
  split
  · exact .nil
  · exact pairs_map (f := headerManager _) fun _ _ => headerManager_isHeaderManager _ _

@[simp]
theorem regexPart?_isSome (a : RegexAssertion) :
    (regexPart? a).isSome = (a.isValid && (Subject.ofValue? a.subject).isSome) := by
  by_cases hvalid : a.isValid = true <;> simp [regexPart?, checkedSubject?, hvalid]

theorem regexPart?_isRegexAssertion {a : RegexAssertion} {t : TestElement}
    (h : regexPart? a = some t) : IsRegexAssertion a t.element.toNode (ownedNodes t.owned) := by
  rw [regexPart?, Option.map_eq_some_iff] at h
  obtain ⟨subject, hsubject, rfl⟩ := h
  rw [checkedSubject?, Option.ite_none_right_eq_some] at hsubject
  exact responseAssertion_isRegexAssertion hsubject.2 _

theorem durationOf_pairs (a : Assertions) :
    Pairs IsDurationAssertion (a.duration.filter ResponseTime.isValid).toList
      (ownedNodes (durationOf a).part) := by
  unfold durationOf
  cases a.duration with
  | none => exact .nil
  | some t =>
    by_cases hvalid : t.isValid = true
    · rw [Option.filter_some_pos hvalid]
      simp only [hvalid]
      exact .cons (durationAssertion_isDurationAssertion hvalid _) .nil
    · rw [Option.filter_some_neg (by simpa using hvalid)]
      simp only [hvalid]
      exact .nil

theorem assertionParts_pairs (r : Request) : ∃ regexes durations,
    ownedNodes (assertionParts r).part = regexes ++ durations ∧
      Pairs IsRegexAssertion (checkedRegexes r) regexes ∧
      Pairs IsDurationAssertion (checkedDurations r) durations := by
  unfold assertionParts checkedRegexes checkedDurations
  cases r.assertions with
  | none => exact ⟨[], [], rfl, .nil, .nil⟩
  | some a =>
    exact ⟨_, _, ownedNodes_append _ _, pairs_filterMap regexPart?_isSome
      fun _ _ _ => regexPart?_isRegexAssertion, durationOf_pairs a⟩

/-! ## Requests -/

@[simp]
theorem validOnly_isEmpty (kvs : List KeyValue) :
    (validOnly kvs).isEmpty = !kvs.any KeyValue.isValid := by
  rw [validOnly, Bool.eq_iff_iff]
  simp

section Sent

variable (name : Value) (e : Endpoint) (kvs : List KeyValue) (alwaysEncode raw : Value)

/-- The arguments of a sampler are found among the properties that are added to it. -/
theorem argumentsOf?_addAll (properties : List Element) :
    argumentsOf? ((endpointSampler name e).element.addAll properties).toNode =
      (properties.map Element.toNode).find? fun c =>
        c.tag == "elementProp" && c.attribute? "name" == some "HTTPsampler.Arguments" := by
  rw [argumentsOf?, property?_addAll, endpointSampler_arguments, Option.none_or]

theorem argumentsOf?_arguments :
    argumentsOf? ((endpointSampler name e).element.addAll [arguments kvs alwaysEncode]).toNode =
      some (arguments kvs alwaysEncode).toNode :=
  (argumentsOf?_addAll name e _).trans rfl

theorem argumentsOf?_body :
    argumentsOf? ((endpointSampler name e).element.addAll
        [rawBodyProp raw, arguments kvs alwaysEncode]).toNode =
      some (arguments kvs alwaysEncode).toNode :=
  (argumentsOf?_addAll name e _).trans rfl

end Sent

theorem payload_of_get {r : Request} (hbuilt : r.Built) : (payload r true).part =
    if r.parameters.any KeyValue.isValid then
      [arguments (sentEntries r true) (.bool true)]
    else [] := by
  rw [payload, if_neg (by simp [hbuilt.method])]
  simp only [if_true, validOnly_isEmpty, sentEntries]
  cases r.parameters.any KeyValue.isValid <;> rfl

theorem payload_of_not_get {r : Request} (hbuilt : r.Built) : ∃ raw alwaysEncode,
    (payload r false).part =
      [rawBodyProp raw, arguments (sentEntries r false) alwaysEncode] := by
  obtain ⟨body, hbody⟩ := hbuilt.body
  rw [payload, if_neg (by simp [hbuilt.method])]
  simp only [sentEntries, hbody]
  cases body.isKeyValue with
  | true => exact ⟨_, _, rfl⟩
  | false => exact ⟨_, _, rfl⟩

@[simp]
theorem sampler_names (name : Value) (e : Endpoint) (properties : List Element) :
    ((endpointSampler name e).element.addAll properties).toNode.children.filterMap
        (·.attribute? "name") =
      samplerNames ++ (properties.map Element.toNode).filterMap (·.attribute? "name") := by
  rw [← endpointSampler_names name e]
  simp [Element.addAll]

@[simp]
theorem compiledRequest_method (r : Request) (get : Bool) :
    propertyText (compiledRequest r get).part.element.toNode "HTTPSampler.method" =
      planText r.method := by
  refine propertyText_of_stringProp ?_
  rw [compiledRequest, requestOf, property?_addAll, endpointSampler_method]
  rfl

section Sampler

variable {r : Request} (hbuilt : r.Built)

include hbuilt

/-- What the sampler of a GET request sends: its valid parameters, if there are any. -/
theorem sent_of_get {item : Node} (hitem : item = (compiledRequest r true).part.element.toNode) :
    item.children.filterMap (·.attribute? "name") = samplerNames ++ sentNames r true ∧
      ((argumentsOf? item).isSome = true ↔ ∃ kv ∈ r.parameters, kv.isValid = true) ∧
      argumentTexts item = (sentEntries r true).map argumentEntry := by
  subst hitem
  rw [compiledRequest, requestOf, payload_of_get hbuilt]
  by_cases hany : r.parameters.any KeyValue.isValid = true
  · rw [if_pos hany]
    have harguments := argumentsOf?_arguments r.name
      { method := r.method, address := r.address? true } (sentEntries r true) (.bool true)
    refine ⟨(sampler_names _ _ _).trans ?_, ?_, argumentTexts_of_arguments harguments⟩
    · rw [sentNames, if_pos rfl, if_pos hany]
      rfl
    · simpa [harguments] using hany
  · rw [if_neg hany]
    have harguments := argumentsOf?_addAll r.name
      { method := r.method, address := r.address? true } []
    have hnone : validOnly r.parameters = [] := by
      rw [← List.isEmpty_iff, validOnly_isEmpty]
      simp [hany]
    refine ⟨(sampler_names _ _ _).trans ?_, ?_, ?_⟩
    · rw [sentNames, if_pos rfl, if_neg hany]
      rfl
    · simpa [harguments] using hany
    · rw [argumentTexts, harguments, sentEntries, if_pos rfl, hnone]
      rfl

/-- What the sampler of another request sends: its body. -/
theorem sent_of_not_get {item : Node}
    (hitem : item = (compiledRequest r false).part.element.toNode) :
    item.children.filterMap (·.attribute? "name") = samplerNames ++ sentNames r false ∧
      (argumentsOf? item).isSome = true ∧
      argumentTexts item = (sentEntries r false).map argumentEntry := by
  subst hitem
  obtain ⟨raw, alwaysEncode, hpart⟩ := payload_of_not_get hbuilt
  rw [compiledRequest, requestOf, hpart]
  have harguments := argumentsOf?_body r.name
    { method := r.method, address := r.address? false } (sentEntries r false) alwaysEncode raw
  exact ⟨(sampler_names _ _ _).trans rfl, by rw [harguments]; rfl,
    argumentTexts_of_arguments harguments⟩

theorem compiledRequest_isSampler {get : Bool} (hget : r.isGet = .ok get) :
    IsSampler r (compiledRequest r get).part.element.toNode
      (ownedNodes (compiledRequest r get).part.owned) where
  tag := endpointSampler_tag _ _
  method := compiledRequest_method r get
  arguments := by
    refine ⟨get, hget, ?_⟩
    cases get with
    | true => simpa using sent_of_get hbuilt rfl
    | false => simpa using sent_of_not_get hbuilt rfl
  owned := by
    obtain ⟨regexes, durations, hparts, hregexes, hdurations⟩ := assertionParts_pairs r
    refine ⟨_, regexes, durations, ?_, headersOf_pairs r, hregexes, hdurations⟩
    rw [compiledRequest, requestOf, ownedNodes_append, hparts]

end Sampler

/-! ## Tests -/

theorem scenarioPart_isThreadGroup (settings : Settings) {s : Scenario}
    (hbuilt : ∀ r ∈ s.requests, r.Built) (hmethods : ∀ r ∈ s.requests, HasMethod r) :
    IsThreadGroup settings s (scenarioPart settings s).part.element.toNode
      (ownedNodes (scenarioPart settings s).part.owned) where
  tag := rfl
  threads := propertyText_of_stringProp rfl
  rampTime := propertyText_of_stringProp rfl
  onSampleError := propertyText_of_stringProp rfl
  loops := by
    have hcontroller : property? (scenarioPart settings s).part.element.toNode "elementProp"
        "ThreadGroup.main_controller" =
          some (elementProp "ThreadGroup.main_controller" "LoopController"
            (fixedAttributes "LoopControlPanel" "LoopController" (some "Loop Controller"))
            [boolProp "LoopController.continue_forever" false,
             stringProp "LoopController.loops" settings.loops]).toNode := rfl
    rw [hcontroller, Option.map_some]
    exact congrArg some (propertyText_of_stringProp rfl)
  owned := by
    have hsamplers : Pairs IsSampler s.requests
        (ownedNodes (s.requests.map fun r => (requestPart r).part)) :=
      pairs_map fun r hr => compiledRequest_isSampler (hbuilt r hr) (hmethods r hr)
    refine ⟨_, (backendListener (.text listenerName) settings.listener).element.toNode, ?_,
      hsamplers, rfl, propertyText_of_stringProp rfl⟩
    simp only [scenarioPart, groupOf, collect, ownedNodes_append, List.map_map]
    rfl

theorem compiledTest_isPlan (settings : Settings) {t : Test}
    (hbuilt : ∀ s ∈ t.scenarios, ∀ r ∈ s.requests, r.Built)
    (hmethods : ∀ s ∈ t.scenarios, ∀ r ∈ s.requests, HasMethod r) :
    IsPlan settings t (compiledTest settings t).part.toNode where
  tag := rfl
  content := by
    have hgroups : Pairs (IsThreadGroup settings) t.scenarios
        (ownedNodes (t.scenarios.map fun s => (scenarioPart settings s).part)) :=
      pairs_map fun s hs => scenarioPart_isThreadGroup settings (hbuilt s hs) (hmethods s hs)
    refine ⟨(testPlan t.name (.text "")).element.toNode, _, ?_, rfl, hgroups⟩
    simp only [compiledTest, collect, List.map_map]
    rfl

end LoadPlan.Plan
