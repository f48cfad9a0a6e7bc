import JsonSchema.Constraint.Verdict
import JsonSchema.Reference

/-!
# Nodes of schema documents

A node is a place of a document. It knows the reference to the document, the pointer to the place,
and the base against which references at the place resolve: the locator of the document refined by
the `id` of every value from the root down to the place.
-/

namespace JsonSchema

/-- A place of a schema document. -/
structure SchemaNode where
  document : Json
  locator : Reference
  pointer : List Char
  base : Reference

namespace Reference

/-- A base inside a value: one with a string as `id` refines the base by it. -/
def refine (base : Reference) (value : Json) : Reference :=
  match value.get? "id" with
  | some (.str id) =>
    match parse id with
    | .ok r => base.resolve r
    | .error _ => base
  | _ => base

/-- The base at the place that tokens lead to, refined by every value on the way. -/
def scope (base : Reference) (value : Json) : List (List Char) → Reference
  | [] => base.refine value
  | token :: rest =>
    match value.below? token with
    | some next => scope (base.refine value) next rest
    | none => base.refine value

/-- The second locator of a document: the one that its `id` names, if that differs from the
first. -/
def secondLocator? (locator : Reference) (document : Json) : Option Reference :=
  match document.get? "id" with
  | some (.str id) =>
    match parse id with
    | .ok r =>
      let other := (locator.resolve r).toLocator
      if other.isEmpty || other.contains locator then none else some other
    | .error _ => none
  | _ => none

end Reference

namespace SchemaNode

/-- The node at a place of a document. -/
def of (locator : Reference) (document : Json) (pointer : List Char) : SchemaNode :=
  ⟨document, locator, pointer,
    locator.scope document ((Pointer.tokens? pointer).getD [])⟩

/-- The value of a node. -/
def raw (n : SchemaNode) : Json :=
  (n.document.at? n.pointer).getD .null

/-- The reference to exactly this node. -/
def reference (n : SchemaNode) : Reference :=
  n.locator.withPointer n.pointer

/-- The reference to a place seen from a node. -/
def locate (n : SchemaNode) : Target → Except InvalidReference Reference
  | .below tokens => .ok (n.locator.withPointer (tokens.foldl Pointer.child n.pointer))
  | .referenced value => (Reference.ofJson value).map n.base.resolve

end SchemaNode

end JsonSchema
