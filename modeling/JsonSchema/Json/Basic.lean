import JsonSchema.Number

/-!
# JSON documents

A document keeps the members of its objects in order. `Json.WellFormed` says that no object
repeats a name; every document that is read from text has this property. `Json.get?` looks up a
member by name, `Json.size` counts the values of a document and bounds the recursions over it.
-/

namespace JsonSchema

/-- A JSON value; objects are lists of named members. -/
inductive Json
  | null
  | bool (value : Bool)
  | num (value : Number)
  | str (value : String)
  | arr (items : List Json)
  | obj (members : List (String × Json))

namespace Json

instance : Inhabited Json := ⟨.null⟩

mutual

/-- Equality of values, members in the same order. -/
def beq : Json → Json → Bool
  | .null, .null => true
  | .bool a, .bool b => a == b
  | .num a, .num b => a == b
  | .str a, .str b => a == b
  | .arr as, .arr bs => beqItems as bs
  | .obj as, .obj bs => beqMembers as bs
  | _, _ => false

/-- Equality of lists of values. -/
def beqItems : List Json → List Json → Bool
  | [], [] => true
  | a :: as, b :: bs => beq a b && beqItems as bs
  | _, _ => false

/-- Equality of lists of members. -/
def beqMembers : List (String × Json) → List (String × Json) → Bool
  | [], [] => true
  | (k, a) :: as, (l, b) :: bs => k == l && beq a b && beqMembers as bs
  | _, _ => false

end

mutual

/-- The number of values in a document, itself included. -/
def size : Json → Nat
  | .arr items => sizeItems items + 1
  | .obj members => sizeMembers members + 1
  | _ => 1

/-- The number of values in a list of documents. -/
def sizeItems : List Json → Nat
  | [] => 0
  | item :: rest => size item + sizeItems rest

/-- The number of values in a list of members. -/
def sizeMembers : List (String × Json) → Nat
  | [] => 0
  | (_, value) :: rest => size value + sizeMembers rest

end

mutual

/-- No object of the document repeats a name. -/
def WellFormed : Json → Prop
  | .arr items => WellFormedItems items
  | .obj members => (members.map Prod.fst).Nodup ∧ WellFormedMembers members
  | _ => True

/-- Every value of a list is well-formed. -/
def WellFormedItems : List Json → Prop
  | [] => True
  | item :: rest => WellFormed item ∧ WellFormedItems rest

/-- Every member value of a list is well-formed. -/
def WellFormedMembers : List (String × Json) → Prop
  | [] => True
  | (_, value) :: rest => WellFormed value ∧ WellFormedMembers rest

end

/-- The value of the first member called `name`. -/
def lookup (name : String) : List (String × Json) → Option Json
  | [] => none
  | (key, value) :: rest => if key = name then some value else lookup name rest

/-- The member of an object called `name`; other values have no members. -/
def get? : Json → String → Option Json
  | .obj members, name => lookup name members
  | _, _ => none

/-- The members of an object; other values have none. -/
def members : Json → List (String × Json)
  | .obj members => members
  | _ => []

/-- The text of a string value. -/
def asString? : Json → Option String
  | .str s => some s
  | _ => none

/-- The value of a boolean. -/
def asBool? : Json → Option Bool
  | .bool b => some b
  | _ => none

/-- The value of an integer in the unsigned range. -/
def asUnsigned? : Json → Option Nat
  | .num n => n.toUnsigned?
  | _ => none

/-- Whether a value is an object. -/
def isObject : Json → Bool
  | .obj _ => true
  | _ => false

/-- Whether a value is a string. -/
def isString : Json → Bool
  | .str _ => true
  | _ => false

theorem size_pos (v : Json) : 0 < v.size := by
  cases v <;> simp [size]

theorem size_le_sizeItems {v : Json} {items : List Json} (h : v ∈ items) :
    v.size ≤ sizeItems items := by
  induction items with
  | nil => cases h
  | cons item rest ih =>
    rcases List.mem_cons.1 h with rfl | h
    · simp [sizeItems]
    · have := ih h
      simp only [sizeItems]
      omega

theorem size_le_sizeMembers {m : String × Json} {members : List (String × Json)}
    (h : m ∈ members) : m.2.size ≤ sizeMembers members := by
  induction members with
  | nil => cases h
  | cons member rest ih =>
    obtain ⟨name, value⟩ := member
    rcases List.mem_cons.1 h with rfl | h
    · simp [sizeMembers]
    · have := ih h
      simp only [sizeMembers]
      omega

theorem mem_of_lookup {name : String} {value : Json} {members : List (String × Json)}
    (h : lookup name members = some value) : (name, value) ∈ members := by
  induction members with
  | nil => simp [lookup] at h
  | cons member rest ih =>
    obtain ⟨key, v⟩ := member
    by_cases hk : key = name
    · subst hk
      simp_all [lookup]
    · simp only [lookup, hk, if_false] at h
      exact List.mem_cons_of_mem _ (ih h)

end Json

end JsonSchema
