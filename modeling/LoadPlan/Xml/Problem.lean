/-!
# What is wrong with an XML document

The ways in which a document fails to be well-formed, with their wording, and the place at which
one was found.
-/

namespace LoadPlan.Xml

/-- A way in which a document is not well-formed. -/
inductive Problem where
  | syntaxError
  | noElement
  | invalidToken
  | unclosedToken
  | partialCharacter
  | mismatchedTag
  | duplicateAttribute
  | junkAfterElement
  | parameterEntity
  | undefinedEntity
  /-- An entity that a declaration which was not read may define. -/
  | undefinedNamed (name : String)
  | recursiveEntity
  | asynchronousEntity
  | characterNumber
  | binaryEntity
  | externalEntityInAttribute
  | misplacedDeclaration
  | unknownEncoding
  | wrongEncoding
  | unclosedCdata
  | externalEntity
  | unboundPrefix
  | undeclaredPrefix
  | malformedDeclaration
  | publicId
  | amplification
  | reservedXml
  | reservedXmlns
  | reservedNamespace
  deriving DecidableEq, Repr

/-- The wording of a problem. -/
def Problem.message : Problem → String
  | .syntaxError => "syntax error"
  | .noElement => "no element found"
  | .invalidToken => "not well-formed (invalid token)"
  | .unclosedToken => "unclosed token"
  | .partialCharacter => "partial character"
  | .mismatchedTag => "mismatched tag"
  | .duplicateAttribute => "duplicate attribute"
  | .junkAfterElement => "junk after document element"
  | .parameterEntity => "illegal parameter entity reference"
  | .undefinedEntity => "undefined entity"
  | .undefinedNamed name => "undefined entity &" ++ name ++ ";"
  | .recursiveEntity => "recursive entity reference"
  | .asynchronousEntity => "asynchronous entity"
  | .characterNumber => "reference to invalid character number"
  | .binaryEntity => "reference to binary entity"
  | .externalEntityInAttribute => "reference to external entity in attribute"
  | .misplacedDeclaration => "XML or text declaration not at start of entity"
  | .unknownEncoding => "unknown encoding"
  | .wrongEncoding => "encoding specified in XML declaration is incorrect"
  | .unclosedCdata => "unclosed CDATA section"
  | .externalEntity => "error in processing external entity reference"
  | .unboundPrefix => "unbound prefix"
  | .undeclaredPrefix => "must not undeclare prefix"
  | .malformedDeclaration => "XML declaration not well-formed"
  | .publicId => "illegal character(s) in public id"
  | .amplification => "limit on input amplification factor (from DTD and entities) breached"
  | .reservedXml => "reserved prefix (xml) must not be undeclared or bound to another namespace name"
  | .reservedXmlns => "reserved prefix (xmlns) must not be declared or undeclared"
  | .reservedNamespace => "prefix must not be bound to one of the reserved namespace names"

/-- Why a document is refused. -/
inductive Error where
  /-- A problem at a place: its line from 1, and how many bytes stand before it in that line. -/
  | malformed (problem : Problem) (line column : Nat)
  /-- The document declares an encoding that is not known. -/
  | noSuchEncoding
  /-- The document declares an encoding that characters cannot be read in one by one. -/
  | multibyteEncoding
  deriving DecidableEq, Repr

/-- The wording of a problem at a place. -/
def placed (problem : Problem) (line column : Nat) : String :=
  problem.message ++ s!": line {line}, column {column}"

end LoadPlan.Xml
