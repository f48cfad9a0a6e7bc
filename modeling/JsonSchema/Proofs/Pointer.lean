import JsonSchema.Json.Pointer
import JsonSchema.Proofs.Split
import Mathlib

/-!
# Pointers below pointers

* `Pointer.tokens?_foldl_child`: the tokens of a pointer that was made by going down along names.
* `Json.at?_foldl_child`: what such a pointer leads to.
* `Pointer.HasSteps`: texts to which such pointers can be added.
-/

namespace JsonSchema

namespace Pointer

variable {pointer : List Char} {tokens : List (List Char)}

theorem tokens?_child (h : tokens? pointer = some tokens) (name : List Char) :
    tokens? (child pointer name) = some (tokens ++ [name]) := by
  have hs : Text.split '/' (escape name) = [escape name] :=
    Text.split_of_notMem (slash_notMem_escape name)
  unfold tokens? at h
  split at h
  · cases h
    simp only [child, List.nil_append, tokens?, hs, List.map_singleton, unescape_escape]
  · cases h
    simp only [child, List.cons_append, tokens?, Text.split_append, hs, List.map_append,
      List.map_singleton, unescape_escape]
  · cases h

theorem tokens?_foldl_child (h : tokens? pointer = some tokens) (names : List (List Char)) :
    tokens? (names.foldl child pointer) = some (tokens ++ names) := by
  induction names generalizing pointer tokens with
  | nil => rw [List.foldl_nil, List.append_nil, h]
  | cons name rest ih =>
    rw [List.foldl_cons, ih (tokens?_child h name), List.append_assoc]
    rfl

/-- A pointer is empty or starts with a slash. -/
theorem eq_nil_or_head?_of_tokens? (h : (tokens? pointer).isSome) :
    pointer = [] ∨ pointer.head? = some '/' := by
  unfold tokens? at h
  split at h
  · exact .inl rfl
  · exact .inr rfl
  · cases h

end Pointer

namespace Json

variable {document v : Json} {pointer : List Char}

theorem isSome_tokens?_of_at? (h : (document.at? pointer).isSome) :
    (Pointer.tokens? pointer).isSome := by
  cases ht : Pointer.tokens? pointer with
  | none =>
    rw [at?, ht] at h
    cases h
  | some tokens => rfl

/-- The place that names lead to from the place of a pointer. -/
theorem at?_foldl_child (h : document.at? pointer = some v) (names : List (List Char)) :
    document.at? (names.foldl Pointer.child pointer) = v.walk? names := by
  obtain ⟨tokens, ht, hw⟩ := Option.bind_eq_some_iff.1 h
  rw [at?, Pointer.tokens?_foldl_child ht, Option.bind_some, walk?_append, hw, Option.bind_some]

end Json

/-- A text that is empty or starts with a slash. -/
def Pointer.HasSteps (pointer : List Char) : Prop :=
  pointer = [] ∨ pointer.head? = some '/'

namespace Pointer.HasSteps

variable {pointer : List Char}

theorem append_slash (h : HasSteps pointer) (rest : List Char) :
    HasSteps (pointer ++ '/' :: rest) := by
  refine .inr ?_
  rcases h with rfl | hhead
  · rfl
  · rw [List.head?_append, hhead, Option.some_or]

theorem foldl_child (h : HasSteps pointer) (names : List (List Char)) :
    HasSteps (names.foldl child pointer) := by
  induction names generalizing pointer with
  | nil => exact h
  | cons name rest ih => exact ih (h.append_slash _)

theorem isSome_tokens? (h : HasSteps pointer) : (tokens? pointer).isSome := by
  rcases h with rfl | hhead
  · rfl
  · obtain ⟨rest, rfl⟩ := List.head?_eq_some_iff.1 hhead
    rfl

/-- What names lead to from a place lies below the value there. -/
theorem exists_of_at?_foldl_child (h : HasSteps pointer) {document w : Json}
    {names : List (List Char)} (hw : document.at? (names.foldl child pointer) = some w) :
    ∃ v, document.at? pointer = some v ∧ v.walk? names = some w := by
  obtain ⟨tokens, ht⟩ := Option.isSome_iff_exists.1 h.isSome_tokens?
  rw [Json.at?, tokens?_foldl_child ht, Option.bind_some, Json.walk?_append] at hw
  obtain ⟨v, hv, hwalk⟩ := Option.bind_eq_some_iff.1 hw
  refine ⟨v, ?_, hwalk⟩
  rw [Json.at?, ht]
  exact hv

end Pointer.HasSteps

end JsonSchema
