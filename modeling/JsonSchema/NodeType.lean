import JsonSchema.Json.Basic

/-!
# Types of values

A value has one of seven types; integers and other numbers are apart. Schemas name types by text:
`any` admits every type and `number` admits integers too.
-/

namespace JsonSchema

/-- The type of a JSON value. -/
inductive NodeType
  | null | boolean | integer | number | string | array | object
  deriving DecidableEq

namespace NodeType

/-- Every type. -/
def all : List NodeType :=
  [.null, .boolean, .integer, .number, .string, .array, .object]

/-- The types of numbers. -/
def numeric : List NodeType :=
  [.integer, .number]

/-- The type of a value. -/
def of : Json → NodeType
  | .null => .null
  | .bool _ => .boolean
  | .num n => if n.isInteger then .integer else .number
  | .str _ => .string
  | .arr _ => .array
  | .obj _ => .object

/-- The name of a type. -/
def name : NodeType → String
  | .null => "null"
  | .boolean => "boolean"
  | .integer => "integer"
  | .number => "number"
  | .string => "string"
  | .array => "array"
  | .object => "object"

/-- The type with a given name; `any` names none. -/
def ofName? (name : String) : Option NodeType :=
  all.find? (·.name == name)

/-- Whether a type name of a schema admits values of this type. -/
def admittedBy (t : NodeType) (name : String) : Bool :=
  name == "any" || t.name == name || (name == "number" && t == .integer)

theorem mem_all (t : NodeType) : t ∈ all := by
  cases t <;> decide

theorem ofName?_name (t : NodeType) : ofName? t.name = some t := by
  cases t <;> decide

end NodeType

end JsonSchema
