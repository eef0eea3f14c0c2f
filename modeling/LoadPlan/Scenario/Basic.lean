import LoadPlan.Fault
import LoadPlan.Value.Basic

/-!
# Scenarios

A test consists of scenarios, a scenario of requests, and a request has headers, parameters, a body
and assertions on its response. Fields that a scenario document fills hold values of any kind; what
counts as given is decided where they are used.
-/

namespace LoadPlan

/-- A name and a value, as a header, a parameter or an entry of a body. -/
structure KeyValue where
  name : Value := .null
  value : Value := .null
  deriving Inhabited, Repr

/-- An assertion that a part of the response has a text. -/
structure TextAssertion where
  subject : Value := .null
  condition : Value := .null
  value : Value := .null
  deriving Inhabited, Repr

/-- An assertion that a part of the response matches a regular expression. -/
structure RegexAssertion where
  subject : Value := .null
  expression : Value := .null
  description : Value := .null
  deriving Inhabited, Repr

/-- The greatest duration of a response, in milliseconds. -/
structure ResponseTime where
  value : Value := .null
  deriving Inhabited, Repr

/-- The assertions on the response to a request. -/
structure Assertions where
  text : List TextAssertion := []
  regex : List RegexAssertion := []
  duration : Option ResponseTime := none
  deriving Inhabited, Repr

/-- The body of a request: entries of names and values, or raw text. -/
structure Body where
  type : Value := .null
  raw : Value := .null
  kvs : List KeyValue := []
  deriving Inhabited, Repr

/-- A request. -/
structure Request where
  id : Value := .null
  name : Value := .null
  url : Value := .null
  method : Value := .null
  parameters : List KeyValue := []
  headers : List KeyValue := []
  body : Option Body := none
  assertions : Option Assertions := none
  /-- Rules for taking values out of the response; there are none yet. -/
  extract : List Value := []
  deriving Inhabited, Repr

/-- A group of requests that are sent one after another. -/
structure Scenario where
  id : Value := .null
  name : Value := .null
  url : Value := .null
  parameters : List KeyValue := []
  headers : List KeyValue := []
  requests : List Request := []
  deriving Inhabited, Repr

/-- A test. -/
structure Test where
  version : Value := .text "1.0.0"
  id : Value := .null
  name : Value := .null
  projectId : Value := .null
  scenarios : List Scenario := []
  deriving Inhabited, Repr

/-! ## What is used of them -/

/-- An entry with a name or a value. -/
def KeyValue.isValid (kv : KeyValue) : Bool :=
  kv.name.isTruthy || kv.value.isTruthy

/-- An assertion with a subject and an expression. -/
def RegexAssertion.isValid (r : RegexAssertion) : Bool :=
  r.subject.isTruthy && r.expression.isTruthy

/-- A duration other than zero. -/
def ResponseTime.isValid (t : ResponseTime) : Bool :=
  t.value.isTruthy

/-- Whether a body is made of entries. -/
def Body.isKeyValue (b : Body) : Bool :=
  b.type.isText "KeyValue"

/-- A body with something in it: a valid entry, or raw text. -/
def Body.isValid (b : Body) : Bool :=
  if b.isKeyValue then b.kvs.any KeyValue.isValid else b.raw.isTruthy

/-- Whether a method, in any letter case, is GET. The method must be a text if it is given. -/
def isGet (method : Value) : Except Fault Bool :=
  match method with
  | .text s => .ok (s.toUpper == "GET")
  | v => if v.isTruthy then .error (.noMember v.kind "upper") else .ok false

/-- Whether a request has the method GET. -/
def Request.isGet (r : Request) : Except Fault Bool :=
  LoadPlan.isGet r.method

/-- The parts of a response that a regular expression can be matched against. -/
inductive Subject where
  | responseCode
  | responseHeaders
  | responseData
  deriving DecidableEq, Repr

/-- The name of a part of a response. -/
def Subject.name : Subject → String
  | .responseCode => "Response Code"
  | .responseHeaders => "Response Headers"
  | .responseData => "Response Data"

/-- The part of a response that a value names. -/
def Subject.ofValue? : Value → Option Subject
  | .text s => [responseCode, responseHeaders, responseData].find? (·.name == s)
  | _ => none

/-- The names of the types of bodies. -/
def bodyTypes : List String :=
  ["KeyValue", "Form Data", "Raw"]

end LoadPlan
