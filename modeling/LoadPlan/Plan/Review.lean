import LoadPlan.Fault
import LoadPlan.Number.Reader
import LoadPlan.Text.Quoted
import LoadPlan.Xml.Reader

/-!
# Reviewing a plan

A plan that was compiled, or edited by hand afterwards, is checked for the structure that every
compiled plan has. A review lists what breaks that structure and what could be improved.
-/

namespace LoadPlan.Plan

open Xml (Node)

/-- Something that breaks the structure of a plan. -/
inductive Defect where
  | wrongRoot
  /-- An attribute of the root has another value than it must have, or none. -/
  | rootAttribute (name expected : String) (found : Option String)
  | noVersion
  | noMainTree
  | noTestPlan
  /-- A thread group is not followed by its tree. -/
  | noGroupTree (group : String)
  /-- The tree of a thread group does not end with a listener. -/
  | noListener (group : String)
  | noMethod (sampler : String)
  | noTestStrings (assertion : String)
  deriving DecidableEq, Repr

/-- The wording of a defect. -/
def Defect.message : Defect → String
  | wrongRoot => "Root element must be 'jmeterTestPlan'"
  | rootAttribute name expected found =>
    s!"Root attribute '{name}' must be '{expected}' (found: " ++
      (match found with
      | some value => Text.quoted value
      | none => "None") ++ ")"
  | noVersion => "Root attribute 'jmeter' is missing"
  | noMainTree => "Missing main hashTree element after jmeterTestPlan"
  | noTestPlan => "Missing TestPlan element"
  | noGroupTree group => s!"ThreadGroup '{group}' is not followed by a hashTree"
  | noListener group => s!"ThreadGroup '{group}' must end with a BackendListener"
  | noMethod sampler => s!"Sampler '{sampler}' missing HTTP method"
  | noTestStrings assertion => s!"ResponseAssertion '{assertion}' has no test strings"

/-- What an endpoint of a sampler can lack. -/
inductive Lack where
  | domain
  | path
  | domainAndPath
  deriving DecidableEq, Repr

/-- A lack in words. -/
def Lack.words : Lack → String
  | domain => "domain"
  | path => "path"
  | domainAndPath => "domain or path"

/-- Something that could be improved. -/
inductive Advice where
  | addRequests
  | completeEndpoint (sampler : String) (lack : Lack)
  | addAssertions
  | addDurations
  | addHeaders
  | threadsNotANumber (found : String)
  | moreThreads (count : Int)
  deriving DecidableEq, Repr

/-- The wording of an advice. -/
def Advice.message : Advice → String
  | addRequests => "No HTTP samplers found. Add requests to the scenario"
  | completeEndpoint sampler lack =>
    s!"Sampler '{sampler}' has no {lack.words}. Check that its request URL is absolute"
  | addAssertions =>
    "No assertions found. Consider adding regex assertions to validate responses"
  | addDurations =>
    "Consider adding response time assertions for performance validation"
  | addHeaders => "Consider adding headers (Content-Type, Authorization) to requests"
  | threadsNotANumber found => s!"Thread count '{found}' is not a number"
  | moreThreads count =>
    s!"Thread count is low ({count}). Consider increasing for realistic load testing"

/-- The outcome of checking a plan. -/
structure Review where
  defects : List Defect
  advice : List Advice
  deriving DecidableEq, Repr

/-- Whether a plan has no defects. -/
def Review.isValid (r : Review) : Bool :=
  r.defects.isEmpty

/-! ## Looking into a plan -/

/-- The first element with a tag that an element holds. -/
def child? (n : Node) (tag : String) : Option Node :=
  n.children.find? (·.tag == tag)

/-- The first property of a kind and a name that an element holds. -/
def property? (n : Node) (tag name : String) : Option Node :=
  n.children.find? fun c => c.tag == tag && c.attribute? "name" == some name

/-- The text of a property, empty if there is none. -/
def propertyText (n : Node) (name : String) : String :=
  ((property? n "stringProp" name).map Node.ownText).getD ""

/-- The elements with a tag below an element. -/
def below (n : Node) (tag : String) : List Node :=
  Node.withTagIn tag n.content

/-- The name of an element; one without is called by its place among its kind, from 1. -/
def nameOf (what : String) (n : Node) (index : Nat) : String :=
  (n.attribute? "testname").getD s!"{what} #{index}"

/-! ## Defects -/

/-- The attributes that the root must have, with their values. -/
def rootAttributes : List (String × String) :=
  [("version", "1.2"), ("properties", "5.0")]

/-- The defects of the attributes of the root. -/
def attributeDefects (root : Node) : List Defect :=
  (rootAttributes.filterMap fun (name, expected) =>
    let found := root.attribute? name
    if found = some expected then none else some (.rootAttribute name expected found)) ++
  (if ((root.attribute? "jmeter").getD "").isEmpty then [.noVersion] else [])

/-- The defects of the tree of the root. -/
def mainTreeDefects (root : Node) : List Defect :=
  match child? root "hashTree" with
  | none => [.noMainTree]
  | some tree => if (child? tree "TestPlan").isNone then [.noTestPlan] else []

/-- Whether the last of some elements, apart from trees, is a listener. -/
def endsWithListener (elements : List Node) : Bool :=
  match (elements.filter (·.tag != "hashTree")).getLast? with
  | some last => last.tag == "BackendListener"
  | none => false

/-- The defect of a thread group before other elements, if it has one. -/
def groupDefect (group : Node) (after : List Node) : List Defect :=
  let name := (group.attribute? "testname").getD "Thread Group"
  match after with
  | tree :: _ =>
    if tree.tag != "hashTree" then [.noGroupTree name]
    else if endsWithListener tree.children then [] else [.noListener name]
  | [] => [.noGroupTree name]

/-- The defects of the thread groups among elements in a row. -/
def groupDefects : List Node → List Defect
  | [] => []
  | n :: rest => (if n.tag == "ThreadGroup" then groupDefect n rest else []) ++ groupDefects rest

/-- The defect of a sampler, if it has one. -/
def samplerDefect (sampler : Node) (index : Nat) : List Defect :=
  if (propertyText sampler "HTTPSampler.method").isEmpty then
    [.noMethod (nameOf "Sampler" sampler index)]
  else []

/-- The defect of an assertion, if it has one. -/
def assertionDefect (assertion : Node) (index : Nat) : List Defect :=
  match property? assertion "collectionProp" "Asserion.test_strings" with
  | some strings =>
    if strings.children.isEmpty then [.noTestStrings (nameOf "Assertion" assertion index)] else []
  | none => [.noTestStrings (nameOf "Assertion" assertion index)]

/-- What is found about elements in a row, each with its index from 1. -/
def indexed {α : Type} (f : Node → Nat → List α) (nodes : List Node) : List α :=
  (nodes.zipIdx 1).flatMap fun (n, i) => f n i

/-- The defects of a plan. -/
def defects (root : Node) : List Defect :=
  if root.tag != "jmeterTestPlan" then [.wrongRoot]
  else
    attributeDefects root ++ mainTreeDefects root ++
      (root.withTag "hashTree").flatMap (fun tree => groupDefects tree.children) ++
      indexed samplerDefect (root.withTag "HTTPSamplerProxy") ++
      indexed assertionDefect (root.withTag "ResponseAssertion")

/-! ## Advice -/

/-- What the endpoint of a sampler lacks, if it lacks something. -/
def lack? (sampler : Node) : Option Lack :=
  match (propertyText sampler "HTTPSampler.domain").isEmpty,
    (propertyText sampler "HTTPSampler.path").isEmpty with
  | true, true => some .domainAndPath
  | true, false => some .domain
  | false, true => some .path
  | false, false => none

/-- The advice on a sampler. -/
def samplerAdvice (sampler : Node) (index : Nat) : List Advice :=
  match lack? sampler with
  | some lack => [.completeEndpoint (nameOf "Sampler" sampler index) lack]
  | none => []

/-- The least number of threads that is no reason for advice. -/
def enoughThreads : Int := 10

/-- The advice on the number of threads of the first thread group. -/
def threadAdvice (root : Node) : List Advice :=
  match below root "ThreadGroup" with
  | [] => []
  | group :: _ =>
    let text := propertyText group "ThreadGroup.num_threads"
    if text.isEmpty then []
    else
      match Number.integer? text with
      | none => [.threadsNotANumber text]
      | some n => if n < enoughThreads then [.moreThreads n] else []

/-- The advice on a plan. -/
def adviceOn (root : Node) : List Advice :=
  let samplers := root.withTag "HTTPSamplerProxy"
  let assertions := root.withTag "ResponseAssertion"
  let durations := root.withTag "DurationAssertion"
  (if samplers.isEmpty then [.addRequests] else []) ++
    indexed samplerAdvice samplers ++
    (if !samplers.isEmpty && assertions.isEmpty then [.addAssertions] else []) ++
    (if !assertions.isEmpty && durations.isEmpty then [.addDurations] else []) ++
    (if (below root "HeaderManager").isEmpty then [.addHeaders] else []) ++
    threadAdvice root

/-- The review of a plan. -/
def review (root : Node) : Review where
  defects := defects root
  advice := adviceOn root

/-! ## Documents -/

/-- The fault of a document that cannot be read; `malformed` says where it is. -/
def documentFault (malformed : Xml.Problem → Nat → Nat → Fault) : Xml.Error → Fault
  | .malformed problem line column => malformed problem line column
  | .noSuchEncoding => .noSuchEncoding
  | .multibyteEncoding => .multibyteEncoding

/-- The review of a plan as a text. -/
def reviewText (s : String) : Except Fault Review :=
  match Xml.read s.toUTF8.data.toList with
  | .ok root => .ok (review root)
  | .error e => .error (documentFault .malformedDocument e)

/-- The review of a plan in a file. -/
def reviewFile (files : Files.Tree) (path : String) : Except Fault Review :=
  match files.read (.ofString path) with
  | .error problem =>
    .error (if problem.cause = .missing || problem.cause = .notDirectory ||
        problem.cause = .nullCharacter then .noPlanFile path
      else .system problem)
  | .ok bytes =>
    match Xml.read bytes with
    | .ok root => .ok (review root)
    | .error e => .error (documentFault .malformedFile e)

end LoadPlan.Plan
