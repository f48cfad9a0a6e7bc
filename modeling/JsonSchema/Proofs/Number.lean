import JsonSchema.Proofs.Constraint
import JsonSchema.Proofs.Rounding
import Mathlib

/-!
# Comparing numbers

Numbers compare by value, with one exception: an integer and a double are compared as doubles, so
that the integer is rounded first. Both then count as equal if the integer is rounded to the double
without being equal to it. This takes integers of more than 53 bits.

* `Number.value`: what a number stands for.
* `Number.isNearest_toDouble`: numbers are rounded to a nearest double.
* `Number.IsBlurred`: rounding hides the difference of two numbers.
* `Number.order_of_not_isBlurred`: other numbers compare by value.
* `Number.two_pow_le_of_isBlurred`: numbers that are blurred have more than 53 bits.
* `Number.compares_exactly_iff`: which comparisons are exact, and what bounds say by them.
-/

namespace JsonSchema

namespace Number

/-- What a number stands for. -/
def value : Number → ℚ
  | int n _ => n
  | real d => d.value

variable {a b : Number}

/-- Numbers are rounded to a nearest double. -/
theorem isNearest_toDouble (a : Number) : a.toDouble.IsNearest a.value := by
  cases a with
  | int n hn =>
    obtain ⟨d, hd, hnear⟩ := Double.exists_ofInt?_eq_some (n := n) (by omega)
    rw [toDouble, hd]
    exact hnear
  | real d =>
    intro e
    rw [toDouble, value, sub_self, abs_zero]
    exact abs_nonneg _

/-- Numbers are compared as doubles if they do not share an integer range. -/
theorem order_toDouble (hs : a.toSigned? = none ∨ b.toSigned? = none)
    (hu : a.toUnsigned? = none ∨ b.toUnsigned? = none) :
    a.order b = compare a.toDouble.value b.toDouble.value := by
  rw [← Double.order_eq]
  unfold order
  split
  · simp_all
  · split
    · simp_all
    · rfl

theorem order_toUnsigned {m n : ℕ} (hs : a.toSigned? = none ∨ b.toSigned? = none)
    (ha : a.toUnsigned? = some m) (hb : b.toUnsigned? = some n) : a.order b = compare m n := by
  unfold order
  split
  · simp_all
  · rw [ha, hb]

/-! ## Integers -/

theorem compare_cast (x y : ℤ) : compare (x : ℚ) y = compare x y := by
  have hcmp := (Int.cast_strictMono (R := ℚ)).cmp_map_eq x y
  rwa [cmp_eq_compare, cmp_eq_compare] at hcmp

theorem compare_natCast (m n : ℕ) : compare (m : ℤ) n = compare m n := by
  have hcmp := (Nat.strictMono_cast (α := ℤ)).cmp_map_eq m n
  rwa [cmp_eq_compare, cmp_eq_compare] at hcmp

section

variable {x y : ℤ} (hx : -9223372036854775808 ≤ x ∧ x < 18446744073709551616)
  (hy : -9223372036854775808 ≤ y ∧ y < 18446744073709551616)

/-- Rounding keeps the sign. -/
theorem toDouble_lt_of_neg_of_pos (hneg : x < 0) (hpos : 0 < y) :
    (int x hx).toDouble.value < (int y hy).toDouble.value := by
  obtain ⟨zero, hzero⟩ := Double.exists_value_eq (n := 0) (by decide)
  obtain ⟨one, hone⟩ := Double.exists_value_eq (n := 1) (by decide)
  have h₁ : (int x hx).toDouble.value ≤ zero.value :=
    (isNearest_toDouble (int x hx)).ge_of_ge (hzero ▸ Int.cast_le.2 hneg.le)
  have h₂ : one.value ≤ (int y hy).toDouble.value :=
    (isNearest_toDouble (int y hy)).le_of_le (hone ▸ Int.cast_le.2 hpos)
  rw [hzero] at h₁
  rw [hone] at h₂
  push_cast at h₁ h₂
  linarith

/-- **Integers compare by value.** -/
theorem order_int : (int x hx).order (int y hy) = compare (x : ℚ) y := by
  by_cases hs : x < 9223372036854775808 ∧ y < 9223372036854775808
  · rw [compare_cast, order, toSigned?, toSigned?, if_pos hs.1, if_pos hs.2]
  have hsigned : (int x hx).toSigned? = none ∨ (int y hy).toSigned? = none := by
    simp only [toSigned?]
    rcases not_and_or.1 hs with h | h
    · exact .inl (if_neg h)
    · exact .inr (if_neg h)
  by_cases hu : 0 ≤ x ∧ 0 ≤ y
  · rw [order_toUnsigned hsigned (if_pos hu.1) (if_pos hu.2), compare_cast, ← compare_natCast,
      Int.toNat_of_nonneg hu.1, Int.toNat_of_nonneg hu.2]
  -- One of them is negative and the other beyond the signed range.
  · have hunsigned : (int x hx).toUnsigned? = none ∨ (int y hy).toUnsigned? = none := by
      simp only [toUnsigned?]
      rcases not_and_or.1 hu with h | h
      · exact .inl (if_neg h)
      · exact .inr (if_neg h)
    rw [order_toDouble hsigned hunsigned]
    rcases lt_or_ge x 0 with hneg | hpos
    · have hy' : 0 < y := by omega
      rw [compare_lt_iff_lt.2 (toDouble_lt_of_neg_of_pos hx hy hneg hy'),
        compare_lt_iff_lt.2 (Int.cast_lt.2 (hneg.trans hy'))]
    · have hneg : y < 0 := by omega
      have hx' : 0 < x := by omega
      rw [compare_gt_iff_gt.2 (toDouble_lt_of_neg_of_pos hy hx hneg hx'),
        compare_gt_iff_gt.2 (Int.cast_lt.2 (hneg.trans hx'))]

end

/-! ## Integers and doubles -/

theorem exists_real (h : a.isInteger = false) : ∃ d, a = real d := by
  cases a with
  | int => cases h
  | real d => exact ⟨d, rfl⟩

theorem toDouble_of_real (h : a.isInteger = false) : a.toDouble.value = a.value := by
  obtain ⟨d, rfl⟩ := exists_real h
  rfl

/-- Numbers are compared as doubles if one of them is a double. -/
theorem order_of_real (h : a.isInteger = false ∨ b.isInteger = false) :
    a.order b = compare a.toDouble.value b.toDouble.value := by
  rcases h with h | h
  · obtain ⟨d, rfl⟩ := exists_real h
    exact order_toDouble (.inl rfl) (.inl rfl)
  · obtain ⟨d, rfl⟩ := exists_real h
    exact order_toDouble (.inr rfl) (.inr rfl)

theorem isInteger_eq_false_of_ne (h : a.isInteger ≠ b.isInteger) :
    a.isInteger = false ∨ b.isInteger = false := by
  cases ha : a.isInteger with
  | false => exact .inl rfl
  | true => exact .inr (by simpa [ha] using h.symm)

/-- An integer and a double that are different, and are the same once the integer is rounded. -/
def IsBlurred (a b : Number) : Prop :=
  a.isInteger ≠ b.isInteger ∧ a.toDouble.value = b.toDouble.value ∧ a.value ≠ b.value

theorem IsBlurred.symm (h : IsBlurred a b) : IsBlurred b a :=
  ⟨h.1.symm, h.2.1.symm, h.2.2.symm⟩

theorem order_of_isBlurred (h : IsBlurred a b) : a.order b = .eq := by
  obtain ⟨hkinds, hdoubles, -⟩ := h
  rw [order_of_real (isInteger_eq_false_of_ne hkinds), compare_eq_iff_eq.2 hdoubles]

/-- **Numbers compare by value, unless an integer is blurred.** -/
theorem order_of_not_isBlurred (h : ¬ IsBlurred a b) : a.order b = compare a.value b.value := by
  by_cases hkinds : a.isInteger = b.isInteger
  · cases a with
    | int x hx =>
      cases b with
      | int y hy => exact order_int hx hy
      | real => cases hkinds
    | real => rw [order_of_real (.inl rfl), toDouble_of_real rfl, toDouble_of_real hkinds.symm]
  have hreal := isInteger_eq_false_of_ne hkinds
  rw [order_of_real hreal]
  by_cases heq : a.toDouble.value = b.toDouble.value
  · have hvalue : a.value = b.value := by
      by_contra hne
      exact h ⟨hkinds, heq, hne⟩
    rw [compare_eq_iff_eq.2 heq, compare_eq_iff_eq.2 hvalue]
  · rcases hreal with ha | hb
    · rw [(isNearest_toDouble b).compare_eq' heq, toDouble_of_real ha]
    · rw [(isNearest_toDouble a).compare_eq heq, toDouble_of_real hb]

theorem order_eq_iff : a.order b = .eq ↔ a.value = b.value ∨ IsBlurred a b := by
  by_cases h : IsBlurred a b
  · exact iff_of_true (order_of_isBlurred h) (.inr h)
  · rw [order_of_not_isBlurred h, compare_eq_iff_eq, or_iff_left h]

/-! ### How large numbers are that are blurred -/

/-- Only integers of more than 53 bits are changed by rounding. -/
theorem two_pow_lt_of_toDouble_ne (h : a.toDouble.value ≠ a.value) : 2 ^ 53 < |a.value| := by
  cases a with
  | int x hx =>
    by_contra hle
    have hbits : x.natAbs ≤ 2 ^ 53 := by
      rw [not_lt, value, ← Int.cast_abs, ← Nat.cast_natAbs] at hle
      exact_mod_cast hle
    obtain ⟨e, he⟩ := Double.exists_value_eq hbits
    exact h ((isNearest_toDouble _).value_eq he)
  | real => exact absurd rfl h

theorem two_pow_le_abs_toDouble (h : 2 ^ 53 ≤ |a.value|) : 2 ^ 53 ≤ |a.toDouble.value| := by
  have hnear := isNearest_toDouble a
  rcases le_abs'.1 h with h | h
  · obtain ⟨e, he⟩ := Double.exists_value_eq (n := -2 ^ 53) (by decide)
    have hge := hnear.ge_of_ge (e := e) (by rw [he]; exact_mod_cast h)
    rw [he] at hge
    exact le_abs'.2 (.inl (by exact_mod_cast hge))
  · obtain ⟨e, he⟩ := Double.exists_value_eq (n := 2 ^ 53) (by decide)
    have hle := hnear.le_of_le (e := e) (by rw [he]; exact_mod_cast h)
    rw [he] at hle
    exact le_abs'.2 (.inr (by exact_mod_cast hle))

/-- **Numbers that are blurred have more than 53 bits.** -/
theorem two_pow_le_of_isBlurred (h : IsBlurred a b) : 2 ^ 53 ≤ |a.value| ∧ 2 ^ 53 ≤ |b.value| := by
  wlog hb : b.isInteger = false generalizing a b
  · exact (this h.symm ((isInteger_eq_false_of_ne h.1).resolve_right hb)).symm
  obtain ⟨-, hdoubles, hne⟩ := h
  rw [toDouble_of_real hb] at hdoubles
  have hlt := two_pow_lt_of_toDouble_ne (hdoubles ▸ hne.symm)
  exact ⟨hlt.le, hdoubles ▸ two_pow_le_abs_toDouble hlt.le⟩

end Number

/-! ## Bounds -/

/-- A number lies on the side of a limit that is excluded. -/
def Side.IsBeyond (side : Side) (q limit : ℚ) : Prop :=
  match side with
  | lower => q < limit
  | upper => limit < q

theorem Side.compare_eq_outside_iff {side : Side} {q limit : ℚ} :
    compare q limit = side.outside ↔ side.IsBeyond q limit := by
  cases side with
  | lower => exact compare_lt_iff_lt
  | upper => exact compare_gt_iff_gt

namespace Constraint

open Number

variable {side : Side} {limit n : Number} {exclusive : Bool}

theorem judgeBound_ne_passed_iff : judgeBound side limit exclusive n ≠ .passed ↔
    n.order limit = side.outside ∨ n.order limit = .eq ∧ exclusive = true := by
  have hfailed (violation : Violation) : Verdict.failed [violation] ≠ .passed := by
    intro h
    cases h
  simp only [judgeBound]
  generalize n.order limit = order
  by_cases hequal : order = .eq ∧ exclusive
  · rw [if_pos hequal]
    exact iff_of_true (hfailed _) (.inr hequal)
  · rw [if_neg hequal, or_iff_left hequal]
    by_cases houtside : order = side.outside
    · rw [Verdict.require, if_neg (by simpa using houtside)]
      exact iff_of_true (hfailed _) houtside
    · rw [Verdict.require, if_pos (by simpa using houtside)]
      exact iff_of_false (fun h => h rfl) houtside

theorem order_eq_outside_iff :
    n.order limit = side.outside ↔ ¬ IsBlurred n limit ∧ side.IsBeyond n.value limit.value := by
  by_cases h : IsBlurred n limit
  · rw [order_of_isBlurred h]
    exact iff_of_false (by cases side <;> decide) fun hb => hb.1 h
  · rw [order_of_not_isBlurred h, side.compare_eq_outside_iff]
    exact (and_iff_right h).symm

end Constraint

/-- **Comparisons are exact for the numbers that are not blurred, and for no others.** Numbers that
are blurred count as equal, and are of size `2 ^ 53` at least. A number violates a bound if it lies
beyond it, or if it counts as equal to it and the bound is exclusive. -/
theorem Number.compares_exactly_iff (a b : Number) :
    (a.order b = compare a.value b.value ↔ ¬ IsBlurred a b) ∧
      (IsBlurred a b → a.order b = .eq ∧ 2 ^ 53 ≤ |a.value| ∧ 2 ^ 53 ≤ |b.value|) ∧
      ∀ side exclusive, (Constraint.bound side b exclusive).judge (.num a) ≠ .passed ↔
        ¬ IsBlurred a b ∧ side.IsBeyond a.value b.value ∨
          (a.value = b.value ∨ IsBlurred a b) ∧ exclusive = true := by
  refine ⟨⟨fun hexact hb => ?_, order_of_not_isBlurred⟩, fun hb =>
    ⟨order_of_isBlurred hb, two_pow_le_of_isBlurred hb⟩, fun side exclusive => ?_⟩
  · rw [order_of_isBlurred hb] at hexact
    exact hb.2.2 (compare_eq_iff_eq.1 hexact.symm)
  · rw [Constraint.judge, Constraint.judgeBound_ne_passed_iff, Constraint.order_eq_outside_iff,
      order_eq_iff]

namespace Number

/-- The double `2 ^ 53`. -/
def blurring : Number :=
  .real ⟨false, Nat.pow 2 52, 1075, by decide⟩

/-- The integer after it, which is rounded to it. -/
def blurred : Number :=
  .int 9007199254740993 (by decide)

theorem value_blurring : blurring.value = 2 ^ 53 := by
  have hunits : (⟨false, Nat.pow 2 52, 1075, by decide⟩ : Double).units =
      2 ^ 53 * (Double.scale : ℤ) := by decide +kernel
  rw [blurring, value, Double.value, hunits]
  push_cast
  exact mul_div_cancel_right₀ _ (Nat.cast_ne_zero.2 Double.scale_pos.ne')

/-- The integer is larger than the double, and is reported to be equal to it as a bound. -/
theorem not_compares_exactly_blurred :
    blurring.value < blurred.value ∧ blurred.order blurring = .eq ∧
      (Constraint.bound .lower blurring true).judge (.num blurred) =
        .failed [.equalsBound blurred .lower blurring] := by
  have horder : blurred.order blurring = .eq := by decide +kernel
  have hjudge {a b : Number} (h : a.order b = .eq) :
      (Constraint.bound .lower b true).judge (.num a) = .failed [.equalsBound a .lower b] :=
    if_pos ⟨h, rfl⟩
  refine ⟨?_, horder, hjudge horder⟩
  rw [value_blurring, blurred, value]
  norm_num

end Number

end JsonSchema
