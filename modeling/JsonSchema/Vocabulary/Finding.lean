import JsonSchema.NodeType
import JsonSchema.Reference
import JsonSchema.Text.Message

/-!
# Findings of a schema check

A check of a schema yields findings. Each is about one place of the document and says what is wrong
there: the place holds no schema, a keyword is unknown, a keyword has a malformed value, or the
rule of a keyword broke down. Unknown keywords are reported but leave the schema usable; all other
findings are fatal.
-/

namespace JsonSchema

/-- What may be wrong with the value of a keyword. -/
inductive Complaint
  | wrongType (expected : List NodeType) (actual : NodeType)
  | badReference (cause : InvalidReference)
  | badPattern (pattern : String)
  | unknownTypeName (name : String)
  | emptyUnion
  | badUnionElement (index : Nat) (actual : NodeType)
  | repeatedUnionElement
  | emptyEnum
  | repeatedEnumElement
  | badDependencyList (property : String)
  | badDependency (property : String) (actual : NodeType)
  | notPositive
  | missingBound (keyword bound : String)
  | negativeSize
  | notASize (actual : NodeType)
  | crossedBounds (keyword : String) (least : Nat) (upper : String) (greatest : Nat)
  /-- A complaint in the words of its rule. -/
  | custom (text : String)
  deriving DecidableEq

/-- What is wrong at a place of a document. -/
inductive Finding.Cause
  /-- The value is no object. -/
  | notASchema (actual : NodeType)
  /-- No rule is known for the keyword. -/
  | unknownKeyword (keyword : String)
  /-- The value of the keyword is malformed. -/
  | invalidKeyword (keyword : String) (complaint : Complaint)
  /-- The rule of the keyword broke down. -/
  | ruleFailed (keyword : String) (reason : String)
  deriving DecidableEq

/-- A finding at the place `pointer` of a document. -/
structure Finding where
  pointer : List Char
  cause : Finding.Cause
  deriving DecidableEq

/-- A complaint in words. -/
def Complaint.message : Complaint → String
  | wrongType expected actual =>
    "expected " ++ Text.joined " or " (expected.map NodeType.name) ++ ", got " ++ actual.name
  | badReference cause => cause.message
  | badPattern pattern => "invalid regex " ++ Text.quoted pattern ++ ": <regex>"
  | unknownTypeName name => "unknown type name " ++ Text.quoted name
  | emptyUnion => "type array must not be empty"
  | badUnionElement index actual =>
    "element " ++ Text.decimal index ++ " must be a type name or a schema, got " ++ actual.name
  | repeatedUnionElement => "type array elements must be unique"
  | emptyEnum => "enum must have at least one element"
  | repeatedEnumElement => "enum elements must be unique"
  | badDependencyList property =>
    "dependency list of " ++ Text.quoted property ++ " must contain only property names"
  | badDependency property actual =>
    "dependency of " ++ Text.quoted property ++ " must be a string, array or schema, got " ++
      actual.name
  | notPositive => "divisibleBy must be strictly positive"
  | missingBound keyword bound => keyword ++ " requires " ++ bound ++ " to be present"
  | negativeSize => "must not be negative"
  | notASize actual => "expected non-negative integer, got " ++ actual.name
  | crossedBounds keyword least upper greatest =>
    keyword ++ " (" ++ Text.decimal least ++ ") is greater than " ++ upper ++ " (" ++
      Text.decimal greatest ++ ")"
  | custom text => text

namespace Finding

/-- The keyword that a finding is about; none if the place holds no schema. -/
def keyword? (f : Finding) : Option String :=
  match f.cause with
  | .notASchema _ => none
  | .unknownKeyword keyword | .invalidKeyword keyword _ | .ruleFailed keyword _ => some keyword

/-- A finding in words, without its place. -/
def message (f : Finding) : String :=
  match f.cause with
  | .notASchema actual => "not a schema: expected object, got " ++ actual.name
  | .unknownKeyword keyword => "unknown keyword " ++ Text.quoted keyword
  | .invalidKeyword _ complaint => complaint.message
  | .ruleFailed keyword reason => "cannot run checker for keyword " ++ keyword ++ ": " ++ reason

/-- The name of the kind of a finding. -/
def kind (f : Finding) : String :=
  match f.cause with
  | .notASchema _ => "not_a_schema"
  | .unknownKeyword _ => "unknown_keyword"
  | .invalidKeyword _ _ => "invalid_keyword"
  | .ruleFailed _ _ => "checker_failed"

/-- Whether a finding makes the schema unusable. -/
def isFatal (f : Finding) : Bool :=
  match f.cause with
  | .unknownKeyword _ => false
  | _ => true

/-- A finding in words, with its place and keyword. -/
def text (f : Finding) : String :=
  let place := if f.pointer = [] then "/" else String.ofList f.pointer
  match f.keyword? with
  | some keyword => place ++ ": [" ++ keyword ++ "] " ++ f.message
  | none => place ++ ": " ++ f.message

end Finding

end JsonSchema
