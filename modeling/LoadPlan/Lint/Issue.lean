import LoadPlan.Value.Printer

/-!
# Issues of a scenario

What a compilation will leave out or degrade, one issue for each such decision, and the report that
holds them.
-/

namespace LoadPlan.Lint

/-- How grave an issue is. -/
inductive Severity where
  | error
  | warning
  | info
  deriving DecidableEq, Repr

/-- The name of a severity. -/
def Severity.name : Severity → String
  | error => "error"
  | warning => "warning"
  | info => "info"

/-- What an issue is about. -/
inductive Category where
  | file
  | shape
  | url
  | headers
  | parameters
  | body
  | assertions
  deriving DecidableEq, Repr

/-- The name of a category. -/
def Category.name : Category → String
  | file => "file"
  | shape => "structure"
  | url => "url"
  | headers => "headers"
  | parameters => "parameters"
  | body => "body"
  | assertions => "assertions"

/-- The lists whose entries can be dropped. -/
inductive EntryList where
  | headers
  | parameters
  | body
  deriving DecidableEq, Repr

/-- What is found about a scenario. -/
inductive Finding where
  /-- The file cannot be loaded, with the wording of the reason. -/
  | unreadable (message : String)
  /-- The document has the wrong shape, with the wording of the reason. -/
  | misshapen (message : String)
  | noRequests
  | noUrl
  | malformedUrl (url : Value)
  | queryAppended (method : Value)
  /-- The entry at an index, from 1, has neither name nor value. -/
  | droppedEntry (list : EntryList) (index : Nat)
  | parametersIgnored (method : Value)
  | unknownBodyType (type : Value)
  | noValidEntries
  | emptyRawBody (method : Value)
  /-- The assertion at an index, from 1, lacks a subject or an expression. -/
  | incompleteRegex (index : Nat)
  | unsupportedSubject (index : Nat) (subject : Value)
  | textAssertions (count : Nat)
  | noThreshold

namespace Finding

/-- How grave a finding is. -/
def severity : Finding → Severity
  | unreadable _ => .error
  | misshapen _ => .error
  | noRequests => .warning
  | noUrl => .warning
  | malformedUrl _ => .warning
  | queryAppended _ => .info
  | droppedEntry .. => .info
  | parametersIgnored _ => .info
  | unknownBodyType _ => .warning
  | noValidEntries => .warning
  | emptyRawBody _ => .warning
  | incompleteRegex _ => .warning
  | unsupportedSubject .. => .warning
  | textAssertions _ => .info
  | noThreshold => .info

/-- What a finding is about. -/
def category : Finding → Category
  | unreadable _ => .file
  | misshapen _ => .shape
  | noRequests => .shape
  | noUrl => .url
  | malformedUrl _ => .url
  | queryAppended _ => .url
  | droppedEntry .headers _ => .headers
  | droppedEntry .parameters _ => .parameters
  | droppedEntry .body _ => .body
  | parametersIgnored _ => .parameters
  | unknownBodyType _ => .body
  | noValidEntries => .body
  | emptyRawBody _ => .body
  | incompleteRegex _ => .assertions
  | unsupportedSubject .. => .assertions
  | textAssertions _ => .assertions
  | noThreshold => .assertions

/-- The name of an entry of a list. -/
def entryLabel : EntryList → String
  | .headers => "Header"
  | .parameters => "Parameter"
  | .body => "Body entry"

/-- The wording of a finding. -/
def message : Finding → String
  | unreadable message => message
  | misshapen message => message
  | noRequests => "Scenario has no requests"
  | noUrl => "Request has no URL; sampler endpoint will be empty"
  | malformedUrl url => "Malformed URL '" ++ url.display ++ "'; sampler endpoint will be empty"
  | queryAppended method =>
    "Query string of " ++ method.display ++ " request is appended to the sampler path"
  | droppedEntry list index =>
    entryLabel list ++ s!" #{index} has no name and no value and is dropped"
  | parametersIgnored method =>
    "Parameters are ignored for " ++ method.display ++ " requests; use the body"
  | unknownBodyType type => "Unknown body type '" ++ type.display ++ "'; compiled as raw text"
  | noValidEntries => "Key/value body has no valid entries; body will be empty"
  | emptyRawBody method => method.display ++ " request has an empty raw body"
  | incompleteRegex index =>
    s!"Regex assertion #{index} needs both subject and expression; dropped"
  | unsupportedSubject index subject =>
    s!"Regex assertion #{index} has unsupported subject '" ++ subject.display ++ "'; dropped"
  | textAssertions count => s!"{count} text assertion(s) are not compiled"
  | noThreshold => "Response time assertion has no threshold; dropped"

end Finding

/-- A finding and where it was made. -/
structure Issue where
  finding : Finding
  location : Value

/-- The issues of a test. -/
structure Report where
  path : Option String
  testName : Value
  issues : List Issue

namespace Report

/-- The number of issues of a severity. -/
def count (r : Report) (s : Severity) : Nat :=
  r.issues.countP (·.finding.severity == s)

/-- Whether no issue is an error. -/
def isValid (r : Report) : Bool :=
  !r.issues.any (·.finding.severity == .error)

end Report

end LoadPlan.Lint
