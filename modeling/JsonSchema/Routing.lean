import JsonSchema.Constraint.Verdict
import JsonSchema.Instance
import JsonSchema.Regex.Pattern

/-!
# Schemas of children

A schema may say what the items and members of a value must be valid against. `Routing.of` says
whether a schema speaks of the children of a value at all, and `Routing.targets` names the schemas
for one child: items by their position, members by their name, by the patterns that match the name,
and otherwise as additional properties.
-/

namespace JsonSchema

/-- How the children of a value find their schemas. -/
inductive Routing
  /-- No child has a schema. -/
  | none
  | items
  | members
  deriving DecidableEq

namespace Routing

/-- Whether a member of a schema is there and is an object. -/
def hasSchema (schema : Json) (keyword : String) : Bool :=
  ((schema.get? keyword).map Json.isObject).getD false

/-- How the children of a value of a type find their schemas below a schema. -/
def of (t : NodeType) (schema : Json) : Routing :=
  let has (keyword : String) := (schema.get? keyword).isSome
  match t with
  | .array => if has "items" then .items else .none
  | .object =>
    if has "properties" || has "patternProperties" || hasSchema schema "additionalProperties" then
      .members
    else .none
  | _ => .none

/-- The schemas for the item at a position. -/
def itemTargets (schema : Json) (i : Nat) : List Target :=
  match schema.get? "items" with
  | some (.obj _) => [.below ["items".toList]]
  | some (.arr tuple) =>
    if i < tuple.length then [.below ["items".toList, Nat.toDigits 10 i]]
    else if hasSchema schema "additionalItems" then [.below ["additionalItems".toList]]
    else []
  | _ => []

/-- The schemas for the member with a name that are given for the name itself or for a pattern that
it fits. -/
def listedTargets (fits : String → String → Bool) (schema : Json) (name : String) : List Target :=
  let own :=
    if ((schema.get? "properties").bind fun p => p.get? name).isSome then
      [Target.below ["properties".toList, name.toList]]
    else []
  let patterns := ((schema.get? "patternProperties").map Json.members).getD []
  let matching := (patterns.map Prod.fst).filter fun p => fits p name
  own ++ matching.map fun p => .below ["patternProperties".toList, p.toList]

/-- The schemas for the member with a name. -/
def memberTargets (fits : String → String → Bool) (schema : Json) (name : String) : List Target :=
  let listed := listedTargets fits schema name
  if listed.isEmpty && hasSchema schema "additionalProperties" then
    [.below ["additionalProperties".toList]]
  else listed

/-- The schemas for the child that a step leads to. -/
def targets (r : Routing) (schema : Json) (step : PathStep) : List Target :=
  match r, step with
  | .items, .index i => itemTargets schema i
  | .members, .field name => memberTargets Regex.finds schema name
  | _, _ => []

end Routing

end JsonSchema
