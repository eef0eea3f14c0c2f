import LoadPlan.Plan.Parts

/-!
# Assembling plans by hand

Parts of a plan can be made one by one, from a description: the kind of part, what it is made with,
and the steps that then add properties and other parts to it.
-/

namespace LoadPlan.Plan

/-- The kinds of parts. -/
inductive PartKind where
  | element
  | testElement
  | testPlan
  | threadGroup
  | arguments
  | sampler
  | headers
  /-- An assertion on a part of the response, or on none in particular. -/
  | response (subject : Option Subject)
  | duration
  | listener
  | document
  deriving DecidableEq, Repr

/-- The kind of part with a name. -/
def PartKind.ofName? : String → Option PartKind
  | "Element" => some .element
  | "TestElement" => some .testElement
  | "TestPlan" => some .testPlan
  | "ThreadGroup" => some .threadGroup
  | "HTTPSamplerArguments" => some .arguments
  | "HTTPSamplerProxy" => some .sampler
  | "HeaderManager" => some .headers
  | "ResponseAssertion" => some (.response none)
  | "ResponseCodeAssertion" => some (.response (some .responseCode))
  | "ResponseDataAssertion" => some (.response (some .responseData))
  | "ResponseHeadersAssertion" => some (.response (some .responseHeaders))
  | "DurationAssertion" => some .duration
  | "BackendListener" => some .listener
  | "JMeterTestPlan" => some .document
  | _ => none

/-- The names of what parts of a kind can be made with. -/
def PartKind.argumentNames : PartKind → List String
  | .element | .testElement => ["tag", "attributes", "text"]
  | .testPlan => ["testname", "comments"]
  | .threadGroup => ["testname", "threads", "ramp_time", "loops", "on_sample_error"]
  | .arguments => ["arguments", "always_encode"]
  | .sampler => ["testname", "request"]
  | .headers => ["testname", "headers"]
  | .response _ => ["testname", "test_type", "value", "message"]
  | .duration => ["testname", "duration"]
  | .listener => ["testname", "classname"]
  | .document => ["jmeter_version"]

mutual

/-- The description of a part: the name of its kind, what it is made with under names, and further
steps. -/
inductive Sketch where
  | mk (kind : String) (arguments : List (String × Value)) (steps : List Step)

/-- A step that adds something to a part. -/
inductive Step where
  /-- Adds a part as a property. -/
  | add (part : Sketch)
  /-- Adds a part to those that are owned. -/
  | put (part : Sketch)
  | addRequestArguments (part : Sketch)
  | addRequestBody (part : Sketch) (raw : Value)
  | putRequestHeader (part : Sketch)
  | putResponseAssertion (part : Sketch)
  | putDurationAssertion (name duration : Value)
  /-- Adds a property with a tag; a value that is null gives way to the default. -/
  | property (tag : String) (name value default : Value)
  | collection (name : Value) (steps : List Step)
  | element (name type : Value) (attributes : List (String × Value)) (steps : List Step)
  /-- A step that parts of no kind have. -/
  | other (name : String)

end

/-- A part. -/
inductive Part where
  | plain (element : Element)
  | test (element : TestElement)
  /-- A request, which takes more steps than other test elements. -/
  | sampler (element : TestElement)
  | document (document : Document)

namespace Part

/-- The name of the class of a part in messages. -/
def className : Part → String
  | plain _ => "Element"
  | test _ => "TestElement"
  | sampler _ => "HTTPSamplerProxy"
  | document _ => "JMeterTestPlan"

mutual

/-- A test element as two elements, itself and the tree of what it owns. -/
def flatten : TestElement → List Element
  | ⟨element, owned⟩ => [element, ⟨"hashTree", [], none, flattenAll owned⟩]

/-- Test elements as elements, two for each. -/
def flattenAll : List TestElement → List Element
  | [] => []
  | t :: rest => flatten t ++ flattenAll rest

end

/-- A part as a property of another. -/
def asElement : Part → Element
  | plain e => e
  | test t => t.element
  | sampler t => t.element
  | document d =>
    ⟨"jmeterTestPlan", d.attributes, none, [⟨"hashTree", [], none, flattenAll d.elements⟩]⟩

/-- A part as one that can be owned. -/
def asTest : Part → Except Fault TestElement
  | test t => .ok t
  | sampler t => .ok t
  | p => .error (.noMember p.className "append_to")

/-- A part with a property added; the root of a document has none. -/
def add : Part → Element → Part
  | plain e, property => plain (e.add property)
  | test t, property => test (t.add property)
  | sampler t, property => sampler (t.add property)
  | document d, _ => document d

/-- A part with an owned one added. -/
def put (p : Part) (owned : TestElement) : Except Fault Part :=
  match p with
  | test t => .ok (test (t.put owned))
  | sampler t => .ok (sampler (t.put owned))
  | document d => .ok (document { d with elements := d.elements ++ [owned] })
  | plain _ => .error (.noMember p.className "put")

/-- A part that takes the steps of a request. -/
def asSampler (p : Part) (step : String) : Except Fault Unit :=
  match p with
  | sampler _ => .ok ()
  | _ => .error (.noMember p.className step)

/-- The text of the root element of a part. -/
def elementText : Part → Option String
  | plain e => e.text
  | test t => t.element.text
  | sampler t => t.element.text
  | document _ => none

/-- The attributes of the root element of a part. -/
def attributes : Part → List (String × String)
  | plain e => e.attributes
  | test t => t.element.attributes
  | sampler t => t.element.attributes
  | document d => d.attributes

/-- The text of a part: an element, the tree that a test element stands in, or a document. -/
def text : Part → Except Fault String
  | plain e => .ok e.toNode.compact
  | test t => .ok (hashTree t.toNodes).compact
  | sampler t => .ok (hashTree t.toNodes).compact
  | document d => d.render

end Part

/-! ## Making parts -/

/-- What a part is made with under a name, if it is given. -/
def given? (arguments : List (String × Value)) (name : String) : Option Value :=
  (arguments.find? (·.1 == name)).map (·.2)

/-- What a part must be made with. -/
def required (arguments : List (String × Value)) (name : String) : Except Fault Value :=
  match given? arguments name with
  | some v => .ok v
  | none => .error .wrongKind

/-- What a part can be made with, or a default. -/
def optional (arguments : List (String × Value)) (name : String) (default : Value) : Value :=
  (given? arguments name).getD default

/-- A text under a name. -/
def requiredText (arguments : List (String × Value)) (name : String) : Except Fault String :=
  match given? arguments name with
  | some (.text s) => .ok s
  | _ => .error .wrongKind

/-- One attribute, as a list of its name and value. -/
def attributeOf : Value → Except Fault (String × Value)
  | .list [.text name, v] => .ok (name, v)
  | _ => .error .wrongKind

/-- Attributes, as a list. -/
def attributesFrom : Value → Except Fault (List (String × Value))
  | .null => .ok []
  | .list items => items.mapM attributeOf
  | _ => .error .wrongKind

/-- A name and a value, as a mapping. -/
def keyValueOf : Value → Except Fault KeyValue
  | .mapping entries => .ok ⟨Entries.get entries "name", Entries.get entries "value"⟩
  | _ => .error .wrongKind

/-- Names and values, as a list. -/
def keyValuesFrom : Value → Except Fault (List KeyValue)
  | .list items => items.mapM keyValueOf
  | _ => .error .wrongKind

/-- The parts of an endpoint that a request can be made with. -/
def endpointPart (request : Value) (name : String) : Value :=
  match request with
  | .mapping entries => Entries.get entries name
  | _ => .null

/-- What can go wrong with the number of a test type. -/
def integerFault : Value.NoInteger → Fault
  | .wrongKind => .wrongKind
  | .malformed => .badValue
  | .infinite => .infinite

/-- An element with a tag, attributes and a text. -/
def makeElement (arguments : List (String × Value)) : Except Fault Element := do
  let tag ← requiredText arguments "tag"
  let attributes ← attributesFrom (optional arguments "attributes" .null)
  return .make tag attributes (optional arguments "text" .null)

/-- An assertion on a part of the response. -/
def makeAssertion (subject : Option Subject) (arguments : List (String × Value)) :
    Except Fault Part := do
  let name ← required arguments "testname"
  let testType ← required arguments "test_type"
  let value ← required arguments "value"
  let testType ← testType.toInteger.mapError integerFault
  let field := (subject.map fieldOf).getD ""
  return .test (responseAssertion field name testType value (optional arguments "message" .null))

/-- A part of a kind. -/
def makePart (kind : PartKind) (arguments : List (String × Value)) : Except Fault Part := do
  if !arguments.all fun a => kind.argumentNames.contains a.1 then throw .wrongKind
  let option := optional arguments
  match kind with
  | .element => return .plain (← makeElement arguments)
  | .testElement => return .test ⟨← makeElement arguments, []⟩
  | .testPlan => return .test (testPlan (option "testname" .null) (option "comments" (.text "")))
  | .threadGroup =>
    return .test (threadGroup (option "testname" .null) (option "threads" (.int 1))
      (option "ramp_time" (.int 1)) (option "loops" (.int 1))
      (option "on_sample_error" (.text "continue")))
  | .arguments =>
    let kvs ← keyValuesFrom (← required arguments "arguments")
    return .plain (Plan.arguments kvs (option "always_encode" (.bool true)))
  | .sampler =>
    let part := endpointPart (option "request" .null)
    return .sampler (← sampler (option "testname" .null) (part "hostname") (part "port")
      (part "protocol") (part "pathname") (part "method"))
  | .headers =>
    let kvs ← keyValuesFrom (← required arguments "headers")
    return .test (headerManager (option "testname" .null) kvs)
  | .response subject => makeAssertion subject arguments
  | .duration =>
    return .test (durationAssertion (← required arguments "testname")
      (← required arguments "duration"))
  | .listener =>
    return .test (backendListener (← required arguments "testname")
      (← required arguments "classname"))
  | .document => return .document (document (option "jmeter_version" (.text "5.2.1")) [])

mutual

/-- The part that a description stands for. -/
def Sketch.build : Sketch → Except Fault Part
  | .mk kind arguments steps => do
    match PartKind.ofName? kind with
    | some kind => runAll steps (← makePart kind arguments)
    | none => throw .noSuchName

/-- A part after a step. -/
def Step.run (p : Part) : Step → Except Fault Part
  | .add s => do return p.add (← s.build).asElement
  | .put s => do p.put (← (← s.build).asTest)
  | .addRequestArguments s => do
    let owned ← s.build
    p.asSampler "add_request_arguments"
    return p.add owned.asElement
  | .addRequestBody s raw => do
    let owned ← s.build
    p.asSampler "add_request_body"
    return (p.add (rawBodyProp raw)).add owned.asElement
  | .putRequestHeader s => do
    let owned ← s.build
    p.asSampler "put_request_header"
    p.put (← owned.asTest)
  | .putResponseAssertion s => do
    let owned ← s.build
    p.asSampler "put_response_assertion"
    p.put (← owned.asTest)
  | .putDurationAssertion name duration => do
    p.asSampler "put_duration_assertion"
    p.put (durationAssertion name duration)
  | .property tag name value default =>
    .ok (p.add (Plan.property tag name (if value.isNull then default else value)))
  | .collection name steps => do
    let inner ← runAll steps (.plain (.make "collectionProp" [("name", name)] .null))
    return p.add inner.asElement
  | .element name type attributes steps => do
    if attributes.any fun a => ["self", "name", "element_type"].contains a.1 then throw .wrongKind
    let bare := Element.make "elementProp" ([("name", name), ("elementType", type)] ++ attributes) .null
    let inner ← runAll steps (.plain bare)
    return p.add inner.asElement
  | .other name => .error (.noMember p.className name)

/-- A part after steps. -/
def runAll : List Step → Part → Except Fault Part
  | [], p => .ok p
  | s :: rest, p => do runAll rest (← s.run p)

end

end LoadPlan.Plan
