import JsonSchema.Json.Basic

/-!
# Equality of JSON values

Two values are equal if they have the same shape and their numbers agree by value: `1` equals `1.0`.
The order of members does not matter.
-/

namespace JsonSchema.Json

mutual

/-- Whether two values are equal, numbers by value and members by name. -/
def sameValue : Json → Json → Bool
  | .null, .null => true
  | .bool a, .bool b => a == b
  | .num a, .num b => a.sameValue b
  | .str a, .str b => a == b
  | .arr as, .arr bs => sameItems as bs
  | .obj as, .obj bs => as.length == bs.length && sameMembers as bs
  | _, _ => false

/-- Whether two lists of values are equal, item by item. -/
def sameItems : List Json → List Json → Bool
  | [], [] => true
  | a :: as, b :: bs => sameValue a b && sameItems as bs
  | _, _ => false

/-- Whether each member of a list has an equal one of the same name in another list. -/
def sameMembers : List (String × Json) → List (String × Json) → Bool
  | [], _ => true
  | (name, a) :: as, bs =>
    (match lookup name bs with
      | some b => sameValue a b
      | none => false) && sameMembers as bs

end

/-- The positions of the first two equal values of a list: the earliest value that is repeated, and
its first repetition. -/
def firstRepeat? : List Json → Option (Nat × Nat)
  | [] => none
  | item :: rest =>
    match rest.findIdx? (sameValue item) with
    | some j => some (0, j + 1)
    | none => (firstRepeat? rest).map fun (i, j) => (i + 1, j + 1)

end JsonSchema.Json
