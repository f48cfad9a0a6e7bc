import JsonSchema.Json.Printer
import JsonSchema.NodeType
import JsonSchema.Text.Message

/-!
# Verdicts on values

The verdict of a constraint on a value: the value passes, it violates the constraint, or the matter
is left to other schemas, which are named by `Target`s.
-/

namespace JsonSchema

/-- The two sides on which a quantity may be bounded. -/
inductive Side
  | lower | upper
  deriving DecidableEq

/-- How a value violates a constraint. -/
inductive Violation
  /-- The type is none of the admitted ones; `schemas` says that schemas were admitted too. -/
  | wrongType (admitted : List String) (schemas : Bool) (actual : NodeType)
  | disallowedType (actual : NodeType)
  | disallowedSchema
  | notEnumerated (value : Json)
  | equalsBound (value : Number) (side : Side) (limit : Number)
  | outOfBound (value : Number) (side : Side) (limit : Number)
  | notDivisible (value divisor : Number)
  | length (actual : Nat) (side : Side) (limit : Nat)
  | patternMismatch (text pattern : String)
  | badPattern (pattern : String)
  | badFormat (value : Json) (format : String)
  | itemCount (actual : Nat) (side : Side) (limit : Nat)
  | equalItems (first second : Nat)
  | extraItems (actual allowed : Nat)
  | missingProperty (name : String)
  | extraProperty (name : String)
  | unmetDependency (property required : String)

/-- A place of a schema, seen from a node of it. -/
inductive Target
  /-- The place that pointer tokens lead to. -/
  | below (tokens : List (List Char))
  /-- The place that the value of a reference addresses. -/
  | referenced (value : Json)

/-- The verdict of a constraint on a value. -/
inductive Verdict
  | passed
  | failed (violations : List Violation)
  /-- The value must be valid against another schema. -/
  | deferred (target : Target)
  /-- The value must be valid against one of several schemas. -/
  | anyOf (targets : List Target) (otherwise : Violation)
  /-- The value may be valid against none of several schemas. -/
  | noneOf (targets : List Target) (otherwise : Violation)
  /-- The constraint has no answer, as a remainder is out of range. -/
  | overflow

namespace Side

/-- The keyword of a bound on a number. -/
def keyword : Side → String
  | lower => "minimum"
  | upper => "maximum"

/-- What a number beyond a bound is. -/
def beyond : Side → String
  | lower => "lower"
  | upper => "greater"

/-- The order to its bound of a number beyond it. -/
def outside : Side → Ordering
  | lower => .lt
  | upper => .gt

/-- Whether a size keeps to a bound. -/
def admits (side : Side) (limit size : Nat) : Bool :=
  match side with
  | lower => limit ≤ size
  | upper => size ≤ limit

end Side

/-- A number as text. -/
def Number.shown (n : Number) : String :=
  String.ofList n.text

/-- A violation in words. -/
def Violation.message : Violation → String
  | wrongType admitted schemas actual =>
    "expected " ++
      Text.joined " or " (admitted ++ if schemas then ["a matching schema"] else []) ++ ", got " ++
      actual.name
  | disallowedType actual => "instance type " ++ actual.name ++ " is disallowed"
  | disallowedSchema => "instance matches a disallowed schema"
  | notEnumerated value => value.compact ++ " is not one of the enumerated values"
  | equalsBound value side limit =>
    value.shown ++ " is equal to the exclusive " ++ side.keyword ++ " " ++ limit.shown
  | outOfBound value side limit =>
    value.shown ++ " is " ++ side.beyond ++ " than the required " ++ side.keyword ++ " " ++
      limit.shown
  | notDivisible value divisor => value.shown ++ " is not divisible by " ++ divisor.shown
  | length actual side limit =>
    "string has length " ++ Text.decimal actual ++ ", " ++ side.keyword ++ " is " ++
      Text.decimal limit
  | patternMismatch text pattern =>
    Text.quoted text ++ " does not match pattern " ++ Text.quoted pattern
  | badPattern pattern => "invalid regex " ++ Text.quoted pattern ++ ": <regex>"
  | badFormat value format => value.compact ++ " is not a valid " ++ format
  | itemCount actual side limit =>
    "array has " ++ Text.decimal actual ++ " items, " ++ side.keyword ++ " is " ++
      Text.decimal limit
  | equalItems first second =>
    "items at index " ++ Text.decimal first ++ " and " ++ Text.decimal second ++ " are equal"
  | extraItems actual allowed =>
    "array has " ++ Text.decimal actual ++ " items but only " ++ Text.decimal allowed ++
      " are allowed"
  | missingProperty name => "missing required property " ++ Text.quoted name
  | extraProperty name => "additional property " ++ Text.quoted name ++ " is not allowed"
  | unmetDependency property required =>
    "property " ++ Text.quoted property ++ " requires " ++ Text.quoted required

/-- The verdict on a value that passes if a condition holds. -/
def Verdict.require (condition : Bool) (otherwise : Violation) : Verdict :=
  if condition then passed else failed [otherwise]

/-- The verdict on a value with some violations; it passes if there are none. -/
def Verdict.ofViolations (violations : List Violation) : Verdict :=
  if violations.isEmpty then passed else failed violations

end JsonSchema
