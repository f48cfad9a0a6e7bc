import JsonSchema.Proofs.Simulation
import Mathlib

/-!
# Nested evaluations

An evaluation opens others inside, of the schemas that it looks up, each on the same node or on a
child. All the while its pair counts as being evaluated, and a pair that is being evaluated opens
nothing.

* `Within`: the evaluations inside another one, at any depth.
* `Within.exists_chain`: the pairs on the way to such an evaluation are all different.
* `IsClear`: pairs that lie outside the part of an instance at a pointer.
* `Within.isClear`: when a child is visited, the pairs that are being evaluated lie outside it.
-/

namespace JsonSchema.Validation

variable {sees : SchemaNode → Target → SchemaNode → Prop} {F G : Frame}

/-- An evaluation opens another one: its own pair is not being evaluated yet, and it looks up the
schema. -/
inductive Opens (sees : SchemaNode → Target → SchemaNode → Prop) : Frame → Frame → Prop
  | looksUp {F : Frame} {t : Target} {s : SchemaNode} {n : Instance} (hnew : F.pair ∉ F.active)
      (hl : LooksUp F.schema F.node t n) (hs : sees F.schema t s) : Opens sees F ⟨F.entered, s, n⟩

/-- The evaluations inside another one, at any depth. -/
def Within (sees : SchemaNode → Target → SchemaNode → Prop) : Frame → Frame → Prop :=
  Relation.ReflTransGen (Opens sees)

namespace Within

/-- An evaluation inside another one is one of those that the pair leads to. -/
theorem reaches (h : Within sees F G) : Reaches sees (F.schema, F.node) (G.schema, G.node) := by
  induction h with
  | refl => exact .refl
  | tail _ hopens ih =>
    obtain ⟨-, hl, hs⟩ := hopens
    exact ih.tail (.looksUp hl hs)

/-- **No pair occurs twice on the way to a nested evaluation.** The pairs that are being evaluated
there are those from before and a chain of reached ones, all different. -/
theorem exists_chain (h : Within sees F G) : ∃ chain, G.active = chain ++ F.active ∧ chain.Nodup ∧
    chain.Disjoint F.active ∧
    ∀ pair ∈ chain, ∃ j, Reaches sees (F.schema, F.node) j ∧ pair = pairOf j.1 j.2 := by
  induction h with
  | refl => exact ⟨[], rfl, List.nodup_nil, List.disjoint_nil_left _, by simp⟩
  | @tail H _ hbefore hopens ih =>
    obtain ⟨chain, hactive, hnodup, hdisjoint, hreached⟩ := ih
    obtain ⟨hnew, -, -⟩ := hopens
    rw [hactive, List.mem_append, not_or] at hnew
    refine ⟨H.pair :: chain, ?_, List.nodup_cons.2 ⟨hnew.1, hnodup⟩, ?_, ?_⟩
    · rw [List.cons_append, ← hactive]
      rfl
    · exact List.disjoint_cons_left.2 ⟨hnew.2, hdisjoint⟩
    · exact List.forall_mem_cons.2 ⟨⟨_, Within.reaches hbefore, rfl⟩, hreached⟩

end Within

/-! ## Pairs outside a part -/

/-- A pointer to a place, or to one below it. -/
def IsAtOrBelow (pointer place : List Char) : Prop :=
  place = pointer ∨ pointer ++ ['/'] <+: place

/-- None of some pairs lies in the part of an instance at a pointer. -/
def IsClear (pointer : List Char) (pairs : List Pair) : Prop :=
  ∀ pair ∈ pairs, ¬ IsAtOrBelow pointer pair.2

namespace IsAtOrBelow

variable {p q r rest : List Char}

theorem refl (p : List Char) : IsAtOrBelow p p :=
  .inl rfl

theorem isPrefix (h : IsAtOrBelow p q) : p <+: q := by
  rcases h with rfl | h
  · exact List.prefix_refl _
  · exact (List.prefix_append p ['/']).trans h

theorem trans (h : IsAtOrBelow p q) (h' : IsAtOrBelow q r) : IsAtOrBelow p r := by
  rcases h with rfl | h
  · exact h'
  · exact .inr (h.trans h'.isPrefix)

/-- What lies at or below a place is what some steps lead to. -/
theorem append_iff : IsAtOrBelow p (p ++ rest) ↔ rest = [] ∨ rest.head? = some '/' := by
  rw [IsAtOrBelow, List.append_right_eq_self, List.prefix_append_right_inj]
  cases rest with
  | nil => simp
  | cons c rest => simp [List.cons_prefix_cons, eq_comm]

theorem child (n : Instance) (step : PathStep) (value : Json) :
    IsAtOrBelow n.pointer (n.child step value).pointer :=
  append_iff.2 (.inr rfl)

end IsAtOrBelow

/-- A look-up stays on its node or goes on to a child. -/
theorem LooksUp.isAtOrBelow {s : SchemaNode} {n n' : Instance} {t : Target}
    (h : LooksUp s n t n') : IsAtOrBelow n.pointer n'.pointer := by
  cases h with
  | constraint => exact .refl _
  | child hm =>
    obtain ⟨part, -, rfl⟩ := List.mem_map.1 hm
    exact .child n part.1 part.2

/-- An evaluation inside another one is at the same place or below. -/
theorem Within.isAtOrBelow (h : Within sees F G) :
    IsAtOrBelow F.node.pointer G.node.pointer := by
  induction h with
  | refl => exact .refl _
  | tail _ hopens ih =>
    obtain ⟨-, hl, -⟩ := hopens
    exact ih.trans hl.isAtOrBelow

/-- The pairs on the way to an evaluation are at its place or above. -/
theorem Within.isPrefix_of_mem (h : Within sees F G) {pair : Pair} (hm : pair ∈ G.active) :
    pair ∈ F.active ∨ pair.2 <+: G.node.pointer := by
  induction h with
  | refl => exact .inl hm
  | tail _ hopens ih =>
    obtain ⟨-, hl, -⟩ := hopens
    have hdown := hl.isAtOrBelow.isPrefix
    rcases List.mem_cons.1 hm with rfl | hm
    · exact .inr hdown
    · exact (ih hm).imp_right fun hup => hup.trans hdown

/-- **When a child is visited, the pairs that are being evaluated lie outside it**, if those from
before lie outside the node at which the evaluation started. -/
theorem Within.isClear (hF : IsClear F.node.pointer F.active) (h : Within sees F G)
    {child : Instance} (hc : child ∈ G.node.children) : IsClear child.pointer G.entered := by
  obtain ⟨part, -, rfl⟩ := List.mem_map.1 hc
  intro pair hm hbelow
  have habove : pair ∈ F.active ∨ pair.2 <+: G.node.pointer := by
    rcases List.mem_cons.1 hm with rfl | hm
    · exact .inr (List.prefix_refl _)
    · exact h.isPrefix_of_mem hm
  rcases habove with hbefore | hup
  · refine hF pair hbefore (h.isAtOrBelow.trans ?_)
    exact (IsAtOrBelow.child G.node part.1 part.2).trans hbelow
  · -- A child has a longer pointer than its parent.
    have hle := (hbelow.isPrefix.trans hup).length_le
    simp only [Instance.child, List.length_append, List.length_cons] at hle
    omega

end JsonSchema.Validation
