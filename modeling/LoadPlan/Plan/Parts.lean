import LoadPlan.Plan.Element
import LoadPlan.Scenario.Basic
import LoadPlan.Text.Units
import LoadPlan.Value.Order

/-!
# The parts of a plan

The test elements that plans are made of, with the properties that each of them has.
-/

namespace LoadPlan.Plan

/-- A test element with a class for its display, a class for its work and a name; without a name it
is called after its tag. -/
def standard (tag gui : String) (name : Value) (properties : List Element) : TestElement where
  element :=
    (Element.make tag
      [("guiclass", .text gui), ("testclass", .text tag),
       ("testname", if name.isNull then .text (tag ++ " Name") else name), ("enabled", .bool true)]
      .null).addAll properties

/-- The attributes of an element of a plan's own making. -/
def fixedAttributes (gui test : String) (name : Option String) : List (String × Value) :=
  [("guiclass", .text gui), ("testclass", .text test)] ++
    (name.toList.map fun n => ("testname", .text n)) ++ [("enabled", .bool true)]

/-- The root of the test elements of a plan. -/
def testPlan (name comments : Value) : TestElement :=
  standard "TestPlan" "TestPlanGui" name
    [stringProp "TestPlan.comments" comments,
     boolProp "TestPlan.functional_mode" false,
     boolProp "TestPlan.serialize_threadgroups" true,
     boolProp "TestPlan.tearDown_on_shutdown" true,
     elementProp "TestPlan.user_defined_variables" "Arguments"
       (fixedAttributes "ArgumentsPanel" "Arguments" (some "User Defined Variables"))
       [collectionProp "Arguments.arguments" []],
     stringProp "TestPlan.user_define_classpath" (.text "")]

/-- A group of threads that each send the same requests. -/
def threadGroup (name threads rampTime loops onSampleError : Value) : TestElement :=
  standard "ThreadGroup" "ThreadGroupGui" name
    [stringProp "ThreadGroup.on_sample_error" onSampleError,
     elementProp "ThreadGroup.main_controller" "LoopController"
       (fixedAttributes "LoopControlPanel" "LoopController" (some "Loop Controller"))
       [boolProp "LoopController.continue_forever" false, stringProp "LoopController.loops" loops],
     stringProp "ThreadGroup.num_threads" threads,
     stringProp "ThreadGroup.ramp_time" rampTime,
     boolProp "ThreadGroup.scheduler" false,
     stringProp "ThreadGroup.duration" (.text ""),
     stringProp "ThreadGroup.delay" (.text "")]

/-- One argument of a request. -/
def argument (alwaysEncode : Value) (kv : KeyValue) : Element :=
  let name := kv.name.orElse (.text "")
  (Element.make "elementProp" [("name", name), ("elementType", .text "HTTPArgument")] .null).addAll
    ([property "boolProp" (.text "HTTPArgument.always_encode")
        (if alwaysEncode.isNull then .bool false else alwaysEncode),
      boolProp "HTTPArgument.use_equals" true] ++
     (if name.isTruthy then [stringProp "Argument.name" name] else []) ++
     [stringProp "Argument.value" kv.value, stringProp "Argument.metadata" (.text "=")])

/-- The arguments of a request: its parameters, the entries of its body, or its raw body as the
value of one argument without a name. -/
def arguments (kvs : List KeyValue) (alwaysEncode : Value) : Element :=
  elementProp "HTTPsampler.Arguments" "Arguments"
    (fixedAttributes "HTTPArgumentsPanel" "Arguments" none)
    [collectionProp "Arguments.arguments" (kvs.map (argument alwaysEncode))]

/-- Characters with the entities for angle brackets and the ampersand decoded, once. -/
def decodeEntities : List Char → List Char
  | '&' :: 'g' :: 't' :: ';' :: rest => '>' :: decodeEntities rest
  | '&' :: 'l' :: 't' :: ';' :: rest => '<' :: decodeEntities rest
  | '&' :: 'a' :: 'm' :: 'p' :: ';' :: rest => '&' :: decodeEntities rest
  | c :: rest => c :: decodeEntities rest
  | [] => []

/-- The path of a sampler: the path of its endpoint, which is written with entities, decoded. -/
def pathValue : Value → Except Fault Value
  | .text s =>
    .ok (if s.isEmpty then .null else .text (String.ofList (decodeEntities s.toList)))
  | v => if v.isTruthy then .error (.noMember v.kind "replace") else .ok .null

/-- A request to an endpoint. -/
def sampler (name domain port protocol path method : Value) : Except Fault TestElement := do
  let path ← pathValue path
  return standard "HTTPSamplerProxy" "HttpTestSampleGui" (name.orElse (.text "HTTP Request"))
    [stringProp "HTTPSampler.domain" domain,
     stringProp "HTTPSampler.port" port,
     stringProp "HTTPSampler.protocol" protocol,
     stringProp "HTTPSampler.path" path,
     stringProp "HTTPSampler.method" method,
     stringProp "HTTPSampler.contentEncoding" (.text "UTF-8"),
     boolProp "HTTPSampler.follow_redirects" true,
     boolProp "HTTPSampler.use_keepalive" true]

/-- The property that says whether the body of a request is raw. -/
def rawBodyProp (raw : Value) : Element :=
  property "boolProp" (.text "HTTPSampler.postBodyRaw") (if raw.isNull then .bool false else raw)

/-- One header. -/
def header (kv : KeyValue) : Element :=
  elementProp "" "Header" [] [stringProp "Header.name" kv.name, stringProp "Header.value" kv.value]

/-- The headers of a request. -/
def headerManager (name : Value) (headers : List KeyValue) : TestElement :=
  standard "HeaderManager" "HeaderPanel" name
    [collectionProp "HeaderManager.headers" (headers.map header)]

/-- The pattern of an assertion as text. -/
def patternText (v : Value) : String :=
  if v.isNull then "" else String.ofList (v.display.toList.filter Xml.isChar)

/-- An assertion on a field of the response. Its one test string is named by its hash. -/
def responseAssertion (field : String) (name : Value) (testType : Int) (pattern message : Value) :
    TestElement :=
  let text := patternText pattern
  standard "ResponseAssertion" "AssertionGui" name
    [stringProp "Assertion.test_field" (.text field),
     boolProp "Assertion.assume_success" false,
     intProp "Assertion.test_type" testType,
     stringProp "Assertion.custom_message" message,
     collectionProp "Asserion.test_strings"
       [property "stringProp" (.int (Text.hash text)) (.text text)]]

/-- The field of the response that an assertion looks at. -/
def fieldOf : Subject → String
  | .responseCode => "Assertion.response_code"
  | .responseData => "Assertion.response_data"
  | .responseHeaders => "Assertion.response_headers"

/-- An assertion on the duration of the response. -/
def durationAssertion (name duration : Value) : TestElement :=
  standard "DurationAssertion" "DurationAssertionGui" name
    [stringProp "DurationAssertion.duration" (duration.orElse (.int 0))]

/-- A listener that hands results on to a class. -/
def backendListener (name listener : Value) : TestElement :=
  standard "BackendListener" "BackendListenerGui" name
    [elementProp "arguments" "Arguments" (fixedAttributes "ArgumentsPanel" "Arguments" none)
       [collectionProp "Arguments.arguments" []],
     stringProp "classname" listener]

/-- A plan with a version of the program it is for. -/
def document (version : Value) (elements : List TestElement) : Document where
  attributes :=
    attributesOf [("version", .text "1.2"), ("properties", .text "5.0"), ("jmeter", version)]
  elements := elements

end LoadPlan.Plan
