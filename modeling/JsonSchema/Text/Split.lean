/-!
# Cutting texts at a character

`split` cuts a text at every occurrence of a character, `join` puts the pieces together again, and
`cut?` cuts at the first occurrence only.
-/

namespace JsonSchema.Text

/-- The pieces of a text between the occurrences of `c`; there is always at least one. -/
def split (c : Char) : List Char → List (List Char)
  | [] => [[]]
  | d :: rest =>
    if d = c then [] :: split c rest
    else
      match split c rest with
      | [] => [[d]]
      | piece :: pieces => (d :: piece) :: pieces

/-- Pieces with `c` between them. -/
def join (c : Char) : List (List Char) → List Char
  | [] => []
  | [piece] => piece
  | piece :: rest => piece ++ c :: join c rest

/-- The texts before and after the first occurrence of `c`. -/
def cut? (c : Char) : List Char → Option (List Char × List Char)
  | [] => none
  | d :: rest =>
    if d = c then some ([], rest)
    else (cut? c rest).map fun (before, after) => (d :: before, after)

/-- The number of bytes of a text in UTF-8. -/
def byteLength (cs : List Char) : Nat :=
  cs.foldl (fun n c => n + c.utf8Size) 0

theorem split_ne_nil (c : Char) (cs : List Char) : split c cs ≠ [] := by
  cases cs with
  | nil => simp [split]
  | cons d rest =>
    unfold split
    split
    · simp
    · split <;> simp

theorem join_split (c : Char) (cs : List Char) : join c (split c cs) = cs := by
  induction cs with
  | nil => rfl
  | cons d rest ih =>
    unfold split
    by_cases h : d = c
    · subst h
      rw [if_pos rfl]
      cases hs : split d rest with
      | nil => exact absurd hs (split_ne_nil d rest)
      | cons piece pieces => rw [join, ← hs, ih]; rfl; simp
    · rw [if_neg h]
      cases hs : split c rest with
      | nil => exact absurd hs (split_ne_nil c rest)
      | cons piece pieces =>
        cases pieces with
        | nil => rw [hs] at ih; simpa [join] using ih
        | cons next more => rw [hs] at ih; simpa [join] using ih

theorem cut?_eq_some {c : Char} {cs before after : List Char}
    (h : cut? c cs = some (before, after)) : cs = before ++ c :: after ∧ c ∉ before := by
  induction cs generalizing before with
  | nil => simp [cut?] at h
  | cons d rest ih =>
    unfold cut? at h
    by_cases hd : d = c
    · subst hd
      simp only [if_true, Option.some.injEq, Prod.mk.injEq] at h
      obtain ⟨rfl, rfl⟩ := h
      simp
    · rw [if_neg hd] at h
      obtain ⟨⟨b, a⟩, hr, he⟩ := Option.map_eq_some_iff.1 h
      simp only [Prod.mk.injEq] at he
      obtain ⟨rfl, rfl⟩ := he
      obtain ⟨h₁, h₂⟩ := ih hr
      refine ⟨by rw [h₁]; rfl, ?_⟩
      simp [h₂, Ne.symm hd]

end JsonSchema.Text
