/-!
# The fields of entities

What a scenario document may say about each kind of entity: the names of its fields, the further
name that a field may have in a document, and which fields hold other entities.
-/

namespace LoadPlan

/-- The kinds of entities of a test. -/
inductive Kind where
  | keyValue
  | text
  | regex
  | responseTime
  | assertions
  | body
  | request
  | scenario
  | test
  deriving DecidableEq, Repr, Inhabited

/-- What a field holds. -/
inductive Content where
  /-- Any value. -/
  | scalar
  /-- One entity. -/
  | entity (kind : Kind)
  /-- A list of entities. -/
  | entities (kind : Kind)
  /-- A list that documents do not fill. -/
  | reserved
  deriving DecidableEq, Repr

/-- A field of an entity. -/
structure Field where
  name : String
  content : Content := .scalar
  /-- A further name of the field in documents. -/
  furtherName? : Option String := none
  deriving DecidableEq, Repr

namespace Kind

/-- The name of a kind. -/
def name : Kind → String
  | keyValue => "KeyValue"
  | text => "Text"
  | regex => "Regex"
  | responseTime => "ResponseTime"
  | assertions => "Assertions"
  | body => "Body"
  | request => "Request"
  | scenario => "Scenario"
  | test => "Test"

/-- The kinds of entities. -/
def all : List Kind :=
  [keyValue, text, regex, responseTime, assertions, body, request, scenario, test]

/-- The kind with a name. -/
def ofName? (s : String) : Option Kind :=
  all.find? (·.name == s)

/-- The fields of a kind of entity, in order. -/
def fields : Kind → List Field
  | keyValue => [⟨"name", .scalar, none⟩, ⟨"value", .scalar, none⟩]
  | text => [⟨"subject", .scalar, none⟩, ⟨"condition", .scalar, none⟩, ⟨"value", .scalar, none⟩]
  | regex =>
    [⟨"subject", .scalar, none⟩, ⟨"expression", .scalar, none⟩, ⟨"description", .scalar, none⟩]
  | responseTime => [⟨"value", .scalar, none⟩]
  | assertions =>
    [⟨"text", .entities text, none⟩, ⟨"regex", .entities regex, none⟩,
     ⟨"duration", .entity responseTime, none⟩]
  | body => [⟨"type", .scalar, none⟩, ⟨"raw", .scalar, none⟩, ⟨"kvs", .entities keyValue, none⟩]
  | request =>
    [⟨"id", .scalar, none⟩, ⟨"name", .scalar, none⟩, ⟨"url", .scalar, none⟩,
     ⟨"method", .scalar, none⟩, ⟨"parameters", .entities keyValue, none⟩,
     ⟨"headers", .entities keyValue, none⟩, ⟨"body", .entity body, none⟩,
     ⟨"assertions", .entity assertions, none⟩, ⟨"extract", .reserved, none⟩]
  | scenario =>
    [⟨"id", .scalar, none⟩, ⟨"name", .scalar, none⟩, ⟨"url", .scalar, none⟩,
     ⟨"parameters", .entities keyValue, none⟩, ⟨"headers", .entities keyValue, none⟩,
     ⟨"requests", .entities request, none⟩]
  | test =>
    [⟨"version", .scalar, none⟩, ⟨"id", .scalar, none⟩, ⟨"name", .scalar, none⟩,
     ⟨"project_id", .scalar, some "projectId"⟩,
     ⟨"scenario_definition", .entities scenario, some "scenarioDefinition"⟩]

/-- The field of a kind with a name. -/
def field? (k : Kind) (name : String) : Option Field :=
  k.fields.find? (·.name == name)

/-- The names that a document may use for the fields of a kind. -/
def optionNames (k : Kind) : List String :=
  k.fields.flatMap fun f => f.name :: f.furtherName?.toList

end Kind

end LoadPlan
