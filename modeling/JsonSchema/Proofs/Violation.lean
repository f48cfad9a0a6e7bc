import JsonSchema.Proofs.Constraint
import Mathlib

/-!
# What violations say

A violation in words begins with the value, or with a text of its own. One kind of violation does
not speak of the value but of the schema, the one about patterns that are no regular expressions.

* `Violation.BlamesSchema`: a violation in words speaks of the schema.
* `Violation.blamesSchema_iff`: only bad patterns do.
* `Constraint.eq_pattern_of_badPattern`: only patterns report bad patterns.
-/

namespace JsonSchema

/-! ## How numbers begin -/

/-- A text begins as a number does, with a digit or the sign. -/
def IsNumeral (text : List Char) : Prop :=
  ∃ c, text.head? = some c ∧ (c = '-' ∨ c.isDigit)

theorem isNumeral_append {text : List Char} (h : IsNumeral text) (rest : List Char) :
    IsNumeral (text ++ rest) := by
  obtain ⟨c, hc, hdigit⟩ := h
  exact ⟨c, by rw [List.head?_append, hc]; rfl, hdigit⟩

theorem isNumeral_toDigits (n : ℕ) : IsNumeral (Nat.toDigits 10 n) := by
  obtain ⟨c, rest, h⟩ := List.exists_cons_of_ne_nil (Nat.toDigits_ne_nil (b := 10) (n := n))
  have hmem : c ∈ Nat.toDigits 10 n := h ▸ List.mem_cons_self
  exact ⟨c, h ▸ rfl, .inr (Nat.isDigit_of_mem_toDigits (by decide) le_rfl hmem)⟩

theorem isNumeral_signed {text : List Char} (negative : Prop) [Decidable negative]
    (h : IsNumeral text) : IsNumeral ((if negative then ['-'] else []) ++ text) := by
  split
  · exact ⟨'-', rfl, .inl rfl⟩
  · exact h

theorem Double.isNumeral_decimalText (c : ℕ) (k : ℤ) : IsNumeral (decimalText c k) := by
  unfold decimalText
  extract_lets digits point
  obtain ⟨d, hd, hdigit⟩ : IsNumeral digits := isNumeral_toDigits c
  split
  · exact isNumeral_append (isNumeral_append ⟨d, hd, hdigit⟩ _) _
  split
  · refine isNumeral_append ⟨d, ?_, hdigit⟩ _
    rw [List.head?_take, if_neg (by omega), hd]
  split
  · exact ⟨'0', rfl, .inr rfl⟩
  · clear_value digits
    match digits, hd with
    | [_], hd => exact ⟨d, hd, hdigit⟩
    | _ :: _ :: _, hd => exact ⟨d, hd, hdigit⟩

theorem Double.isNumeral_text (d : Double) : IsNumeral d.text := by
  unfold text
  extract_lets sign
  split
  · exact isNumeral_signed _ ⟨'0', rfl, .inr rfl⟩
  · exact isNumeral_signed _ (isNumeral_decimalText _ _)

theorem Number.isNumeral_text (n : Number) : IsNumeral n.text := by
  cases n with
  | int n hn =>
    exact isNumeral_signed _ (isNumeral_toDigits _)
  | real d => exact d.isNumeral_text

/-! ## How messages begin -/

namespace Violation

/-- The beginnings of the messages about schemas that cannot be used. -/
def complaints : List (List Char) :=
  ["invalid regex".toList, "cannot compare".toList]

/-- A violation in words blames the schema, rather than the value. -/
def BlamesSchema (violation : Violation) : Prop :=
  ∃ complaint ∈ complaints, complaint <+: violation.message.toList

variable {text complaint front : List Char} {violation : Violation}

theorem not_prefix_of_front (hfront : front <+: text)
    (h : ∀ complaint ∈ complaints, ¬ complaint <+: front ∧ ¬ front <+: complaint)
    (hc : complaint ∈ complaints) : ¬ complaint <+: text := fun hp =>
  (List.prefix_or_prefix_of_prefix hp hfront).elim (h complaint hc).1 (h complaint hc).2

theorem not_prefix_of_head? {c : Char} (hhead : text.head? = some c) (hi : c ≠ 'i') (hc : c ≠ 'c')
    (hcomplaint : complaint ∈ complaints) : ¬ complaint <+: text := by
  rintro ⟨rest, rfl⟩
  have hheads : ∀ complaint ∈ complaints,
      complaint.head? = some 'i' ∨ complaint.head? = some 'c' := by
    decide
  rcases hheads complaint hcomplaint with h | h
  all_goals
    rw [List.head?_append, h, Option.some_or, Option.some_inj] at hhead
    exact absurd hhead.symm ‹_›

theorem not_prefix_of_isNumeral (h : IsNumeral text) (hcomplaint : complaint ∈ complaints) :
    ¬ complaint <+: text := by
  obtain ⟨c, hhead, hdigit⟩ := h
  refine not_prefix_of_head? hhead ?_ ?_ hcomplaint
  all_goals
    rintro rfl
    simp at hdigit

theorem not_prefix_compactChars (v : Json) (rest : List Char)
    (hcomplaint : complaint ∈ complaints) : ¬ complaint <+: v.compactChars ++ rest := by
  have hfront {front : List Char} (c : Char) (hhead : front.head? = some c) (hi : c ≠ 'i')
      (hc : c ≠ 'c') : ¬ complaint <+: front ++ rest :=
    not_prefix_of_head? (by rw [List.head?_append, hhead]; rfl) hi hc hcomplaint
  fun_cases Json.compactChars v
  case case1 => exact hfront 'n' rfl (by decide) (by decide)
  case case2 => exact hfront 't' rfl (by decide) (by decide)
  case case3 => exact hfront 'f' rfl (by decide) (by decide)
  case case4 n => exact not_prefix_of_isNumeral (isNumeral_append n.isNumeral_text _) hcomplaint
  case case5 => exact hfront '"' rfl (by decide) (by decide)
  case case6 | case7 => exact hfront '[' rfl (by decide) (by decide)
  case case8 | case9 => exact hfront '\x7b' rfl (by decide) (by decide)

/-- **Only patterns that are no regular expressions are blamed on the schema.** -/
theorem blamesSchema_iff : violation.BlamesSchema ↔ ∃ pattern, violation = .badPattern pattern := by
  constructor
  · rintro ⟨complaint, hcomplaint, hp⟩
    have hnot {text : List Char} (front : String) (hfront : front.toList <+: text)
        (h : ∀ complaint ∈ complaints,
          ¬ complaint <+: front.toList ∧ ¬ front.toList <+: complaint) :
        ¬ complaint <+: text := not_prefix_of_front hfront h hcomplaint
    cases violation
    case badPattern pattern => exact ⟨pattern, rfl⟩
    all_goals
      refine absurd hp ?_
      unfold message
      simp only [String.toList_append, List.append_assoc]
    case wrongType => exact hnot "expected " (List.prefix_append _ _) (by decide)
    case disallowedType => exact hnot "instance type " (List.prefix_append _ _) (by decide)
    case disallowedSchema => exact hnot "instance matches" (by decide) (by decide)
    case notEnumerated v =>
      rw [Json.compact, String.toList_ofList]
      exact not_prefix_compactChars v _ hcomplaint
    case badFormat v _ =>
      rw [Json.compact, String.toList_ofList]
      exact not_prefix_compactChars v _ hcomplaint
    case equalsBound n _ _ | outOfBound n _ _ | notDivisible n _ =>
      rw [Number.shown, String.toList_ofList]
      exact not_prefix_of_isNumeral (isNumeral_append n.isNumeral_text _) hcomplaint
    case length => exact hnot "string has length " (List.prefix_append _ _) (by decide)
    case patternMismatch =>
      unfold Text.quoted
      simp only [String.toList_append, List.append_assoc]
      exact hnot "\"" (List.prefix_append _ _) (by decide)
    case itemCount => exact hnot "array has " (List.prefix_append _ _) (by decide)
    case extraItems => exact hnot "array has " (List.prefix_append _ _) (by decide)
    case equalItems => exact hnot "items at index " (List.prefix_append _ _) (by decide)
    case missingProperty =>
      exact hnot "missing required property " (List.prefix_append _ _) (by decide)
    case extraProperty => exact hnot "additional property " (List.prefix_append _ _) (by decide)
    case unmetDependency => exact hnot "property " (List.prefix_append _ _) (by decide)
  · rintro ⟨pattern, rfl⟩
    refine ⟨"invalid regex".toList, List.mem_cons_self, ?_⟩
    unfold message
    simp only [String.toList_append, List.append_assoc]
    exact (show "invalid regex".toList <+: "invalid regex ".toList by decide).trans
      (List.prefix_append _ _)

end Violation

namespace Verdict

variable {violations : List Violation} {violation : Violation}

theorem mem_of_require {condition : Bool} {otherwise : Violation}
    (h : require condition otherwise = .failed violations) (hv : violation ∈ violations) :
    violation = otherwise := by
  cases condition with
  | true => cases h
  | false =>
    cases h
    exact List.mem_singleton.1 hv

theorem mem_ofViolations_iff {reported : List Violation} :
    (∃ violations, ofViolations reported = .failed violations ∧ violation ∈ violations) ↔
      violation ∈ reported := by
  unfold ofViolations
  split
  · rename_i hempty
    rw [List.isEmpty_iff.1 hempty]
    simp
  · simp

end Verdict

namespace Constraint

theorem notMem_of_judgeBound {side : Side} {limit n : Number} {exclusive : Bool}
    {violations : List Violation} {source : String}
    (h : judgeBound side limit exclusive n = .failed violations) :
    .badPattern source ∉ violations := by
  intro hv
  simp only [judgeBound] at h
  split at h
  · cases h
    cases List.mem_singleton.1 hv
  · cases Verdict.mem_of_require h hv

theorem notMem_of_judgeDivisor {divisor n : Number} {violations : List Violation}
    {source : String} (h : judgeDivisor divisor n = .failed violations) :
    .badPattern source ∉ violations := by
  intro hv
  unfold judgeDivisor at h
  split at h
  · cases Verdict.mem_of_require h hv
  · cases h

theorem eq_of_judgePattern {pattern text source : String} {violations : List Violation}
    (h : judgePattern pattern text = .failed violations) (hv : .badPattern source ∈ violations) :
    pattern = source ∧ Regex.isValid source = false := by
  unfold judgePattern at h
  split at h
  · cases Verdict.mem_of_require h hv
  · rename_i hvalid
    cases h
    cases List.mem_singleton.1 hv
    exact ⟨rfl, Bool.eq_false_iff.2 hvalid⟩

/-- **Only patterns report bad patterns**, if they are no regular expressions. -/
theorem eq_pattern_of_badPattern {c : Constraint} {v : Json} {violations : List Violation}
    {source : String} (h : c.judge v = .failed violations)
    (hv : .badPattern source ∈ violations) :
    c = .pattern source ∧ Regex.isValid source = false := by
  revert h
  fun_cases judge c v <;> intro h
  case case2 =>
    cases h
    have he : Violation.badPattern source = .wrongType _ _ _ := List.mem_singleton.1 hv
    cases he
  case case11 => exact absurd hv (notMem_of_judgeBound h)
  case case12 => exact absurd hv (notMem_of_judgeDivisor h)
  case case14 =>
    obtain ⟨rfl, hvalid⟩ := eq_of_judgePattern h hv
    exact ⟨rfl, hvalid⟩
  -- The other verdicts report violations of one kind each.
  all_goals first
    | cases h; done
    | cases h; cases List.mem_singleton.1 hv
    | cases Verdict.mem_of_require h hv
    | obtain ⟨_, -, he⟩ := List.mem_map.1 (Verdict.mem_ofViolations_iff.1 ⟨_, h, hv⟩); cases he

end Constraint

end JsonSchema
