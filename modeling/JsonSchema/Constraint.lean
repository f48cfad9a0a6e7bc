import JsonSchema.Constraint.Verdict
import JsonSchema.Format
import JsonSchema.Json.Equality

/-!
# Constraints

The keywords of a schema impose constraints on values. `Constraint.ofSchema` lists the constraints
of a schema in the order of its keywords, and `Constraint.judge` gives the verdict of one of them on
a value. A constraint concerns values of some types only; `Constraint.forType` keeps those that
concern a type. Keywords with values of the wrong form impose nothing.
-/

namespace JsonSchema

/-- A union of types: names of types, and the positions of schemas in the array. -/
structure TypeUnion where
  names : List String
  schemas : List Nat

/-- What one keyword of a schema demands of a value. -/
inductive Constraint
  | type (union : TypeUnion)
  | disallow (union : TypeUnion)
  | enum (choices : List Json)
  | ref (reference : Json)
  /-- The schema extends another one, the item `index` of the keyword's array if there is one. -/
  | extension (index : Option Nat)
  | bound (side : Side) (limit : Number) (exclusive : Bool)
  | divisibleBy (divisor : Number)
  | length (side : Side) (limit : Nat)
  | pattern (source : String)
  | format (name : String)
  | itemCount (side : Side) (limit : Nat)
  | uniqueItems
  /-- No items are allowed after the first ones. -/
  | additionalItems (allowed : Nat)
  /-- The members that must be there. -/
  | required (names : List String)
  /-- Only members with given names, or names that match patterns, are allowed. -/
  | additionalProperties (names patterns : List String)
  /-- A member needs other members beside it. -/
  | dependency (property : String) (needs : List String)
  /-- An object with a certain member must be valid against another schema. -/
  | schemaDependency (property : String)

namespace TypeUnion

/-- The union that the value of a keyword writes. -/
def ofJson : Json → TypeUnion
  | .str name => ⟨[name], []⟩
  | .arr items =>
    ⟨items.filterMap Json.asString?,
      items.zipIdx.filterMap fun (item, i) => if item.isObject then some i else none⟩
  | _ => ⟨[], []⟩

/-- Whether a name of the union admits a type. -/
def admits (union : TypeUnion) (t : NodeType) : Bool :=
  union.names.any t.admittedBy

/-- The places of the schemas of the union, which is the value of a keyword. -/
def targets (union : TypeUnion) (keyword : String) : List Target :=
  union.schemas.map fun i => .below [keyword.toList, Nat.toDigits 10 i]

end TypeUnion

namespace Constraint

/-- The keyword that imposes a constraint. -/
def keyword : Constraint → String
  | type _ => "type"
  | disallow _ => "disallow"
  | enum _ => "enum"
  | ref _ => "$ref"
  | extension _ => "extends"
  | bound side _ _ => side.keyword
  | divisibleBy _ => "divisibleBy"
  | length .lower _ => "minLength"
  | length .upper _ => "maxLength"
  | pattern _ => "pattern"
  | format _ => "format"
  | itemCount .lower _ => "minItems"
  | itemCount .upper _ => "maxItems"
  | uniqueItems => "uniqueItems"
  | additionalItems _ => "additionalItems"
  | required _ => "required"
  | additionalProperties _ _ => "additionalProperties"
  | dependency _ _ | schemaDependency _ => "dependencies"

/-- The types of the values that a constraint concerns. -/
def types : Constraint → List NodeType
  | type _ | disallow _ | enum _ | ref _ | extension _ | format _ => NodeType.all
  | bound _ _ _ | divisibleBy _ => NodeType.numeric
  | length _ _ | pattern _ => [.string]
  | itemCount _ _ | uniqueItems | additionalItems _ => [.array]
  | required _ | additionalProperties _ _ | dependency _ _ | schemaDependency _ => [.object]

/-! ### Reading schemas -/

/-- A constraint with the size that a value writes. -/
def sized (make : Nat → Constraint) (value : Json) : List Constraint :=
  value.asUnsigned?.toList.map make

/-- The names of the members of an object. -/
def namesOf (value : Option Json) : List String :=
  (value.map fun v => v.members.map Prod.fst).getD []

/-- Whether a schema says that its property must be there. -/
def isRequired (schema : Json) : Bool :=
  (schema.get? "required").bind Json.asBool? == some true

/-- What a property needs, by the value that says so. -/
def ofDependency (property : String) : Json → List Constraint
  | .str name => [dependency property [name]]
  | .arr names => [dependency property (names.filterMap Json.asString?)]
  | .obj _ => [schemaDependency property]
  | _ => []

/-- The constraints that a keyword with its value imposes, among the members of a schema. -/
def ofMember (members : List (String × Json)) (keyword : String) (value : Json) :
    List Constraint :=
  let flag (name : String) := ((Json.lookup name members).bind Json.asBool?).getD false
  match keyword, value with
  | "type", value => [type (.ofJson value)]
  | "disallow", value => [disallow (.ofJson value)]
  | "enum", .arr choices => [enum choices]
  | "$ref", value => [ref value]
  | "extends", .obj _ => [extension none]
  | "extends", .arr items => (List.range items.length).map fun i => extension (some i)
  | "minimum", .num limit => [bound .lower limit (flag "exclusiveMinimum")]
  | "maximum", .num limit => [bound .upper limit (flag "exclusiveMaximum")]
  | "divisibleBy", .num divisor => [divisibleBy divisor]
  | "minLength", value => sized (length .lower) value
  | "maxLength", value => sized (length .upper) value
  | "minItems", value => sized (itemCount .lower) value
  | "maxItems", value => sized (itemCount .upper) value
  | "pattern", .str source => [pattern source]
  | "format", .str name => [format name]
  | "uniqueItems", .bool true => [uniqueItems]
  | "additionalItems", .bool false =>
    match Json.lookup "items" members with
    | some (.arr items) => [additionalItems items.length]
    | _ => []
  | "properties", .obj properties =>
    let names := (properties.filter fun p => isRequired p.2).map Prod.fst
    if names.isEmpty then [] else [required names]
  | "additionalProperties", .bool false =>
    [additionalProperties (namesOf (Json.lookup "properties" members))
      (namesOf (Json.lookup "patternProperties" members))]
  | "dependencies", .obj dependencies =>
    dependencies.flatMap fun (property, value) => ofDependency property value
  | _, _ => []

/-- The constraints of a schema, in the order of its keywords. -/
def ofSchema (schema : Json) : List Constraint :=
  schema.members.flatMap fun (keyword, value) => ofMember schema.members keyword value

/-- The constraints of a schema that concern values of a type. -/
def forType (schema : Json) (t : NodeType) : List Constraint :=
  (ofSchema schema).filter fun c => t ∈ c.types

/-! ### Judging values -/

/-- The verdict of a bound on a number. -/
def judgeBound (side : Side) (limit : Number) (exclusive : Bool) (n : Number) : Verdict :=
  let order := n.order limit
  if order = .eq ∧ exclusive then .failed [.equalsBound n side limit]
  else .require (order != side.outside) (.outOfBound n side limit)

/-- The verdict of a divisor on a number. -/
def judgeDivisor (divisor n : Number) : Verdict :=
  match n.isMultipleOf? divisor with
  | some divisible => .require divisible (.notDivisible n divisor)
  | none => .overflow

/-- The verdict of a pattern on a text. -/
def judgePattern (source text : String) : Verdict :=
  if Regex.isValid source then .require (Regex.finds source text) (.patternMismatch text source)
  else .failed [.badPattern source]

/-- Whether a name is one of some names or fits one of some patterns. -/
def isListed (fits : String → String → Bool) (names patterns : List String) (name : String) :
    Bool :=
  names.contains name || patterns.any fun p => fits p name

/-- The names of members that are not among some names and fit none of some patterns. -/
def extraNames (fits : String → String → Bool) (names patterns : List String)
    (members : List (String × Json)) : List String :=
  (members.map Prod.fst).filter fun n => !isListed fits names patterns n

/-- The verdict of a constraint on a value. -/
def judge : Constraint → Json → Verdict
  | type union, v =>
    let violation := .wrongType union.names (!union.schemas.isEmpty) (NodeType.of v)
    if union.admits (NodeType.of v) then .passed
    else if union.schemas.isEmpty then .failed [violation]
    else .anyOf (union.targets "type") violation
  | disallow union, v =>
    if union.admits (NodeType.of v) then .failed [.disallowedType (NodeType.of v)]
    else if union.schemas.isEmpty then .passed
    else .noneOf (union.targets "disallow") .disallowedSchema
  | enum choices, v => .require (choices.any fun c => c.sameValue v) (.notEnumerated v)
  | ref reference, _ => .deferred (.referenced reference)
  | extension none, _ => .deferred (.below ["extends".toList])
  | extension (some i), _ => .deferred (.below ["extends".toList, Nat.toDigits 10 i])
  | bound side limit exclusive, .num n => judgeBound side limit exclusive n
  | divisibleBy divisor, .num n => judgeDivisor divisor n
  | length side limit, .str s =>
    .require (side.admits limit s.length) (.length s.length side limit)
  | pattern source, .str s => judgePattern source s
  | format name, v => .require (Format.admits name v) (.badFormat v name)
  | itemCount side limit, .arr items =>
    .require (side.admits limit items.length) (.itemCount items.length side limit)
  | uniqueItems, .arr items =>
    match Json.firstRepeat? items with
    | some (i, j) => .failed [.equalItems i j]
    | none => .passed
  | additionalItems allowed, .arr items =>
    .require (items.length ≤ allowed) (.extraItems items.length allowed)
  | required names, v =>
    .ofViolations ((names.filter fun n => (v.get? n).isNone).map .missingProperty)
  | additionalProperties names patterns, .obj members =>
    .ofViolations ((extraNames Regex.finds names patterns members).map .extraProperty)
  | dependency property needs, v =>
    if (v.get? property).isNone then .passed
    else .ofViolations ((needs.filter fun n => (v.get? n).isNone).map (.unmetDependency property))
  | schemaDependency property, v =>
    if (v.get? property).isNone then .passed
    else .deferred (.below ["dependencies".toList, property.toList])
  | _, _ => .passed

end Constraint

end JsonSchema
