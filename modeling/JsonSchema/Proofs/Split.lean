import JsonSchema.Text.Split
import Mathlib

/-!
# Splitting and joining texts

Laws of `Text.split` and `Text.join` beyond `Text.join_split`: pieces are joined and split again
without a change if they do not hold the separator.
-/

namespace JsonSchema.Text

variable {c : Char} {cs piece : List Char}

theorem split_of_notMem (h : c ∉ cs) : split c cs = [cs] := by
  induction cs with
  | nil => rfl
  | cons d rest ih =>
    rw [List.mem_cons, not_or] at h
    rw [split, if_neg (Ne.symm h.1), ih h.2]

/-- The separator ends one piece and starts the next. -/
theorem split_append (c : Char) (before after : List Char) :
    split c (before ++ c :: after) = split c before ++ split c after := by
  induction before with
  | nil => simp [split]
  | cons d rest ih =>
    by_cases h : d = c
    · simp [split, h, ih]
    · rw [List.cons_append, split, if_neg h, ih, split, if_neg h]
      cases hs : split c rest with
      | nil => exact absurd hs (split_ne_nil c rest)
      | cons piece pieces => rfl

theorem notMem_of_mem_split (h : piece ∈ split c cs) : c ∉ piece := by
  induction cs generalizing piece with
  | nil =>
    rw [split, List.mem_singleton] at h
    simp [h]
  | cons d rest ih =>
    by_cases hd : d = c
    · rw [split, if_pos hd] at h
      rcases List.mem_cons.1 h with rfl | h
      · simp
      · exact ih h
    · cases hs : split c rest with
      | nil => exact absurd hs (split_ne_nil c rest)
      | cons first more =>
        rw [split, if_neg hd, hs] at h
        rcases List.mem_cons.1 h with rfl | h
        · have hf := ih (hs ▸ List.mem_cons_self)
          simp [Ne.symm hd, hf]
        · exact ih (hs ▸ List.mem_cons_of_mem _ h)

theorem subset_of_mem_split (h : piece ∈ split c cs) : piece ⊆ cs := by
  induction cs generalizing piece with
  | nil =>
    rw [split, List.mem_singleton] at h
    simp [h]
  | cons d rest ih =>
    by_cases hd : d = c
    · rw [split, if_pos hd] at h
      rcases List.mem_cons.1 h with rfl | h
      · simp
      · exact List.subset_cons_of_subset _ (ih h)
    · cases hs : split c rest with
      | nil => exact absurd hs (split_ne_nil c rest)
      | cons first more =>
        rw [split, if_neg hd, hs] at h
        rcases List.mem_cons.1 h with rfl | h
        · exact List.cons_subset_cons _ (ih (hs ▸ List.mem_cons_self))
        · exact List.subset_cons_of_subset _ (ih (hs ▸ List.mem_cons_of_mem _ h))

theorem notMem_of_cut?_eq_none (h : cut? c cs = none) : c ∉ cs := by
  induction cs with
  | nil => simp
  | cons d rest ih =>
    unfold cut? at h
    by_cases hd : d = c
    · rw [if_pos hd] at h
      cases h
    · rw [if_neg hd, Option.map_eq_none_iff] at h
      simp [Ne.symm hd, ih h]

theorem cut?_of_notMem (h : c ∉ cs) : cut? c cs = none := by
  cases hc : cut? c cs with
  | none => rfl
  | some p => exact absurd (by simp [(cut?_eq_some hc).1]) h

theorem cut?_append {before : List Char} (h : c ∉ before) (after : List Char) :
    cut? c (before ++ c :: after) = some (before, after) := by
  induction before with
  | nil => simp [cut?]
  | cons d rest ih =>
    rw [List.mem_cons, not_or] at h
    rw [List.cons_append, cut?, if_neg (Ne.symm h.1), ih h.2]
    rfl

theorem join_cons (c : Char) (piece : List Char) {pieces : List (List Char)} (h : pieces ≠ []) :
    join c (piece :: pieces) = piece ++ c :: join c pieces := by
  cases pieces with
  | nil => exact absurd rfl h
  | cons next more => rfl

/-- Pieces without the separator are found again. -/
theorem split_join {pieces : List (List Char)} (hne : pieces ≠ []) (h : ∀ p ∈ pieces, c ∉ p) :
    split c (join c pieces) = pieces := by
  induction pieces with
  | nil => exact absurd rfl hne
  | cons piece rest ih =>
    have hp := h piece List.mem_cons_self
    cases rest with
    | nil => exact split_of_notMem hp
    | cons next more =>
      rw [join_cons c piece (by simp), split_append, split_of_notMem hp,
        ih (by simp) fun p hm => h p (List.mem_cons_of_mem _ hm)]
      rfl

theorem mem_join {d : Char} {pieces : List (List Char)} (h : d ∈ join c pieces) :
    d = c ∨ ∃ p ∈ pieces, d ∈ p := by
  induction pieces with
  | nil => cases h
  | cons piece rest ih =>
    cases rest with
    | nil => exact .inr ⟨piece, by simp, h⟩
    | cons next more =>
      rw [join_cons c piece (by simp)] at h
      rcases List.mem_append.1 h with h | h
      · exact .inr ⟨piece, by simp, h⟩
      rcases List.mem_cons.1 h with rfl | h
      · exact .inl rfl
      · rcases ih h with rfl | ⟨p, hm, hp⟩
        · exact .inl rfl
        · exact .inr ⟨p, List.mem_cons_of_mem _ hm, hp⟩

/-! ## Prefixes -/

section Prefix

variable {p : Char → Bool} {before after : List Char}

/-- A text up to the first character outside a class. -/
theorem takeWhile_append (hb : ∀ d ∈ before, p d = true) (ha : ∀ d ∈ after.head?, p d = false) :
    (before ++ after).takeWhile p = before := by
  rw [List.takeWhile_append_of_pos hb]
  cases after with
  | nil => simp
  | cons d rest => rw [List.takeWhile_cons_of_neg (by simpa using ha d rfl), List.append_nil]

theorem dropWhile_append (hb : ∀ d ∈ before, p d = true) (ha : ∀ d ∈ after.head?, p d = false) :
    (before ++ after).dropWhile p = after := by
  rw [List.dropWhile_append_of_pos hb]
  cases after with
  | nil => rfl
  | cons d rest => rw [List.dropWhile_cons_of_neg (by simpa using ha d rfl)]

/-- A character outside a class ends the prefix, wherever the text goes on. -/
theorem takeWhile_append_cons (hc : p c = false) :
    (cs ++ c :: after).takeWhile p = cs.takeWhile p := by
  induction cs with
  | nil => rw [List.nil_append, List.takeWhile_cons_of_neg (by simp [hc]), List.takeWhile_nil]
  | cons d rest ih => rw [List.cons_append, List.takeWhile_cons, List.takeWhile_cons, ih]

theorem dropWhile_append_cons (hc : p c = false) :
    (cs ++ c :: after).dropWhile p = cs.dropWhile p ++ c :: after := by
  induction cs with
  | nil => rw [List.nil_append, List.dropWhile_cons_of_neg (by simp [hc])]; rfl
  | cons d rest ih =>
    rw [List.cons_append, List.dropWhile_cons, List.dropWhile_cons, ih]
    split <;> rfl

end Prefix

end JsonSchema.Text
