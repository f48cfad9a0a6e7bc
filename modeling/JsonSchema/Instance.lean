import JsonSchema.Json.Pointer
import JsonSchema.NodeType

/-!
# Nodes of an instance

A value under validation is seen as a tree of nodes. A node knows its value, the pointer from the
root to it and the step by which it was reached from its parent.
-/

namespace JsonSchema

/-- How a child is reached from its parent. -/
inductive PathStep
  | index (i : Nat)
  | field (name : String)
  deriving DecidableEq

namespace PathStep

/-- A step as a pointer token. -/
def token : PathStep → List Char
  | .index i => Nat.toDigits 10 i
  | .field name => Pointer.escape name.toList

/-- A step as text. -/
def text : PathStep → List Char
  | .index i => Nat.toDigits 10 i
  | .field name => name.toList

end PathStep

/-- A node of an instance. -/
structure Instance where
  value : Json
  pointer : List Char
  /-- `none` at the root. -/
  step : Option PathStep

namespace Instance

/-- The root node of a value. -/
def root (value : Json) : Instance :=
  ⟨value, [], none⟩

/-- The type of a node's value. -/
def type (n : Instance) : NodeType :=
  NodeType.of n.value

/-- The node that a step leads to. -/
def child (n : Instance) (step : PathStep) (value : Json) : Instance :=
  ⟨value, n.pointer ++ '/' :: step.token, some step⟩

/-- The steps from a value to its direct parts, with the parts: items by index, members by name. -/
def parts : Json → List (PathStep × Json)
  | .arr items => items.mapIdx fun i item => (.index i, item)
  | .obj members => members.map fun (name, value) => (.field name, value)
  | _ => []

/-- The children of a node, in order. -/
def children (n : Instance) : List Instance :=
  (parts n.value).map fun (step, value) => n.child step value

theorem size_lt_of_mem_parts {v : Json} {p : PathStep × Json} (h : p ∈ parts v) :
    p.2.size < v.size := by
  cases v with
  | arr items =>
    simp only [parts, List.mem_mapIdx] at h
    obtain ⟨i, hi, rfl⟩ := h
    have := Json.size_le_sizeItems (List.getElem_mem hi)
    simp only [Json.size]
    omega
  | obj members =>
    simp only [parts, List.mem_map] at h
    obtain ⟨m, hm, rfl⟩ := h
    have := Json.size_le_sizeMembers hm
    simp only [Json.size]
    omega
  | _ => simp [parts] at h

theorem size_lt_of_mem_children {n c : Instance} (h : c ∈ n.children) :
    c.value.size < n.value.size := by
  simp only [children, List.mem_map] at h
  obtain ⟨p, hp, rfl⟩ := h
  exact size_lt_of_mem_parts hp

/-- The node and its descendants in pre-order. -/
def subtree (n : Instance) : List Instance :=
  n :: n.children.attach.flatMap fun ⟨c, _⟩ => subtree c
  termination_by n.value.size
  decreasing_by exact size_lt_of_mem_children ‹_›

end Instance

end JsonSchema
