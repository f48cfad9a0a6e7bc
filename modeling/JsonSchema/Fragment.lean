import JsonSchema.Json.Pointer

/-!
# Fragments of references

A decoded fragment is a JSON Pointer if it is empty or starts with `/`, and otherwise the name of
an anchor: the first object, in document order, whose `id` is `#` and that name.
-/

namespace JsonSchema

/-- What a fragment addresses in a document. -/
inductive Fragment
  | pointer (text : List Char)
  | anchor (name : List Char)
  deriving DecidableEq

namespace Fragment

/-- The fragment that a decoded text writes. -/
def ofText (text : List Char) : Fragment :=
  if text = [] ∨ text.head? = some '/' then .pointer text else .anchor text

/-- A fragment as decoded text. -/
def text : Fragment → List Char
  | .pointer text => text
  | .anchor name => name

/-- Whether a fragment addresses the whole document. -/
def isEmpty (f : Fragment) : Bool :=
  f = .pointer []

end Fragment

namespace Json

/-- Whether a value is an object whose `id` is the string `id`. -/
def hasId (id : String) (v : Json) : Bool :=
  (v.get? "id").bind asString? == some id

mutual

/-- The pointer to the first object with a given `id` at or below `v`, which is at `pointer`. -/
def findAnchor? (id : String) (pointer : List Char) : Json → Option (List Char)
  | .obj members =>
    if hasId id (.obj members) then some pointer else findAnchorMembers? id pointer members
  | .arr items => findAnchorItems? id pointer 0 items
  | _ => none

/-- The same among the items of an array, the first of which has index `i`. -/
def findAnchorItems? (id : String) (pointer : List Char) (i : Nat) :
    List Json → Option (List Char)
  | [] => none
  | item :: rest =>
    (findAnchor? id (Pointer.item pointer i) item).or
      (findAnchorItems? id pointer (i + 1) rest)

/-- The same among the members of an object. -/
def findAnchorMembers? (id : String) (pointer : List Char) :
    List (String × Json) → Option (List Char)
  | [] => none
  | (name, value) :: rest =>
    (findAnchor? id (Pointer.child pointer name.toList) value).or
      (findAnchorMembers? id pointer rest)

end

end Json

/-- The pointer to what a fragment addresses in a document, if there is such a value. -/
def Fragment.locate? (f : Fragment) (document : Json) : Option (List Char) :=
  match f with
  | .pointer p => (document.at? p).map fun _ => p
  | .anchor name => document.findAnchor? (String.ofList ('#' :: name)) []

/-- What a fragment addresses in a document, with the pointer to it. -/
def Fragment.resolve? (f : Fragment) (document : Json) : Option (List Char × Json) :=
  (f.locate? document).bind fun p => (document.at? p).map fun v => (p, v)

end JsonSchema
