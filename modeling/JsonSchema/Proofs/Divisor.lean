import JsonSchema.Proofs.Number
import Mathlib

/-!
# Divisors of integers

Whether a divisor divides an integer is decided by the remainder if both fit the signed range.
Beyond this range both are rounded to doubles, and so is their quotient; the divisor counts if the
outcome is an integer up to a few units in its last place. No multiple is refused this way, but a
remainder may be hidden.

* `Double.isNearlyIntegral_iff`: which doubles count as integers.
* `Double.exists_div?_eq_some`: how far a quotient may be off.
* `Number.exists_quotient`: how far the quotient of two rounded integers is off.
* `Number.HidesRemainder`: rounding hides the remainder of an integer.
* `Number.divides_exactly_iff`: which divisors of an integer pass.
-/

namespace JsonSchema

namespace Double

variable {a b d : Double}

/-! ## Doubles that count as integers -/

theorem two_mul_abs_nearest_sub_le (m : ℕ) {s : ℕ} (hs : 0 < s) :
    2 * |(((2 * m + s) / (2 * s) : ℕ) * s : ℤ) - m| ≤ s := by
  have hdiv := Nat.div_add_mod' (2 * m + s) (2 * s)
  have hmod := Nat.mod_lt (2 * m + s) (by omega : 0 < 2 * s)
  rw [← Nat.mul_assoc, Nat.mul_right_comm] at hdiv
  rw [← Nat.cast_mul]
  generalize (2 * m + s) / (2 * s) * s = r at hdiv ⊢
  rcases abs_cases ((r : ℤ) - m) with ⟨h, -⟩ | ⟨h, -⟩ <;> omega

theorem natCast_distance (m r : ℕ) : (((m - r) + (r - m) : ℕ) : ℤ) = |(r : ℤ) - m| := by
  rcases le_total m r with h | h
  · rw [Nat.sub_eq_zero_of_le h, zero_add, Nat.cast_sub h, abs_of_nonneg (by omega)]
  · rw [Nat.sub_eq_zero_of_le h, add_zero, Nat.cast_sub h, abs_of_nonpos (by omega), neg_sub]

/-- A double counts as an integer if the nearest multiple of the scale is near. -/
theorem isNearlyIntegral_iff_magnitude :
    d.isNearlyIntegral ↔
      ∃ k : ℤ, 2 ^ 50 * |k * scale - d.magnitude| ≤ max (scale : ℤ) d.magnitude := by
  have hnearest := abs_mul_sub_le (two_mul_abs_nearest_sub_le d.magnitude scale_pos)
  have htest : d.isNearlyIntegral ↔
      2 ^ 50 * |(((2 * d.magnitude + scale) / (2 * scale) : ℕ) * scale : ℤ) - d.magnitude| ≤
        max (scale : ℤ) d.magnitude := by
    rw [isNearlyIntegral, decide_eq_true_iff, ← Nat.cast_mul, ← natCast_distance, mul_comm,
      max_comm]
    exact_mod_cast Iff.rfl
  rw [htest]
  refine ⟨fun h => ⟨_, h⟩, fun ⟨k, hk⟩ => le_trans ?_ hk⟩
  exact mul_le_mul_of_nonneg_left (hnearest k) (by decide)

/-- **Which doubles count as integers**: those that lie near an integer, for their size. -/
theorem isNearlyIntegral_iff :
    d.isNearlyIntegral ↔ ∃ k : ℤ, 2 ^ 50 * |d.value - k| ≤ max 1 |d.value| := by
  have hscale : (0 : ℚ) < scale := Nat.cast_pos.2 scale_pos
  have hunits (k : ℤ) :
      2 ^ 50 * |(d.magnitude / scale : ℚ) - k| ≤ max 1 (d.magnitude / scale : ℚ) ↔
        2 ^ 50 * |k * scale - d.magnitude| ≤ max (scale : ℤ) d.magnitude := by
    have hdistance : |(d.magnitude / scale : ℚ) - k| * scale = |(k * scale - d.magnitude : ℚ)| := by
      rw [abs_sub_comm (k * scale : ℚ), ← div_mul_cancel₀ (d.magnitude : ℚ) hscale.ne', ← sub_mul,
        abs_mul, abs_of_pos hscale, div_mul_cancel₀ _ hscale.ne']
    rw [← mul_le_mul_iff_of_pos_right hscale, max_mul_of_nonneg _ _ hscale.le, one_mul,
      div_mul_cancel₀ _ hscale.ne', mul_assoc, hdistance]
    exact_mod_cast Iff.rfl
  rw [isNearlyIntegral_iff_magnitude, d.abs_value, d.value_eq_signed]
  constructor
  · rintro ⟨k, hk⟩
    refine ⟨if d.negative then -k else k, ?_⟩
    have hsign : ((if d.negative then -k else k : ℤ) : ℚ) = signed d.negative k := by
      unfold signed
      split <;> simp
    rw [hsign, signed_sub, abs_signed]
    exact (hunits k).2 hk
  · rintro ⟨k, hk⟩
    refine ⟨|k|, (hunits _).1 (le_trans ?_ hk)⟩
    have hsize := abs_abs_sub_abs_le (signed d.negative (d.magnitude / scale)) (k : ℚ)
    rw [abs_signed, abs_of_nonneg (div_nonneg (Nat.cast_nonneg _) hscale.le), ← Int.cast_abs]
      at hsize
    exact mul_le_mul_of_nonneg_left hsize (by norm_num)

/-! ## Quotients -/

theorem value_div (a b : Double) :
    a.value / b.value =
      signed (a.negative != b.negative) (a.magnitude / b.magnitude) := by
  have hscale : (scale : ℚ) ≠ 0 := Nat.cast_ne_zero.2 scale_pos.ne'
  rw [← div_div_div_cancel_right₀ hscale (a.magnitude : ℚ) b.magnitude, a.value_eq_signed,
    b.value_eq_signed]
  generalize (a.magnitude / scale : ℚ) = x, (b.magnitude / scale : ℚ) = y
  cases a.negative <;> cases b.negative <;> simp [signed, neg_div, div_neg]

/-- **A quotient of 65 bits is off by the part `2 ^ (-53)` at most.** -/
theorem exists_div?_eq_some (h : |a.value| < 2 ^ 65 * |b.value|) :
    ∃ q, a.div? b = some q ∧
      2 ^ 53 * |q.value - a.value / b.value| ≤ max 1 |a.value / b.value| := by
  have hscale : (0 : ℚ) < scale := Nat.cast_pos.2 scale_pos
  rw [abs_value, abs_value, ← mul_div_assoc, div_lt_div_iff_of_pos_right hscale] at h
  have hlt : a.magnitude < 2 ^ 65 * b.magnitude := by exact_mod_cast h
  have hpos : 0 < b.magnitude := by
    rcases Nat.eq_zero_or_pos b.magnitude with hzero | hpos
    · rw [hzero] at hlt
      exact absurd hlt (Nat.not_lt_zero _)
    · exact hpos
  obtain ⟨q, hq⟩ := exists_ofRatio_eq_some (a.negative != b.negative) hpos hlt
  refine ⟨q, ?_, ?_⟩
  · rw [div?, if_neg hpos.ne', hq]
  · rw [value_div]
    exact abs_value_sub_le hpos hq

end Double

namespace Number

/-! ## Quotients of rounded integers -/

section

variable {x y q : ℚ}

/-- The quotient of two numbers, each off by the part `2 ^ (-53)` at most. -/
theorem two_pow_mul_abs_div_sub_le {a b : ℚ} (hy : 0 < y) (ha : 2 ^ 53 * |a - x| ≤ |x|)
    (hb : 2 ^ 53 * |b - y| ≤ y) : 2 ^ 52 * |a / b - x / y| ≤ 5 / 4 * |x / y| := by
  obtain ⟨hlow, -⟩ := abs_le.1 (show |b - y| ≤ y / 2 ^ 53 by linarith)
  have hpos : 0 < b := by linarith
  have hsplit : a / b - x / y = ((a - x) * y - x * (b - y)) / (b * y) := by
    rw [div_sub_div _ _ hpos.ne' hy.ne']
    congr 1
    ring
  have hnumerator : 2 ^ 52 * |(a - x) * y - x * (b - y)| ≤ |x| * y := by
    have htriangle := abs_sub ((a - x) * y) (x * (b - y))
    rw [abs_mul, abs_mul, abs_of_pos hy] at htriangle
    have hfirst := mul_le_mul_of_nonneg_right ha hy.le
    have hsecond := mul_le_mul_of_nonneg_left hb (abs_nonneg x)
    linarith
  have hquotient : |x| / b ≤ 5 / 4 * |x / y| := by
    rw [abs_div, abs_of_pos hy, ← mul_div_assoc, div_le_div_iff₀ hpos hy]
    have hsmall : y ≤ 5 / 4 * b := by linarith
    have hmul := mul_le_mul_of_nonneg_left hsmall (abs_nonneg x)
    linarith
  calc 2 ^ 52 * |a / b - x / y| = 2 ^ 52 * |(a - x) * y - x * (b - y)| / (b * y) := by
        rw [hsplit, abs_div, abs_of_pos (mul_pos hpos hy), mul_div_assoc]
    _ ≤ |x| * y / (b * y) := div_le_div_of_nonneg_right hnumerator (mul_pos hpos hy).le
    _ = |x| / b := mul_div_mul_right _ _ hy.ne'
    _ ≤ 5 / 4 * |x / y| := hquotient

/-- The rounded quotient of two rounded numbers. -/
theorem two_pow_mul_abs_sub_le {z : ℚ} (hz : 2 ^ 52 * |z - x| ≤ 5 / 4 * |x|)
    (hq : 2 ^ 53 * |q - z| ≤ max 1 |z|) : 2 ^ 51 * |q - x| ≤ max 1 |x| := by
  have htriangle := abs_sub_le q z x
  have hsize := abs_sub_abs_le_abs_sub z x
  have hone := le_max_left 1 |x|
  have hx := le_max_right 1 |x|
  have hmax : max 1 |z| ≤ 5 / 4 * max 1 |x| := max_le (by linarith) (by linarith)
  linarith

variable {k : ℤ}

/-- What counts as an integer is near one. -/
theorem near_of_counts (hq : 2 ^ 51 * |q - x| ≤ max 1 |x|)
    (hk : 2 ^ 50 * |q - k| ≤ max 1 |q|) : 2 ^ 49 * |x - k| ≤ max 1 |x| := by
  have htriangle := abs_sub_le x q k
  have hsize := abs_sub_abs_le_abs_sub q x
  have hone := le_max_left 1 |x|
  have hx := le_max_right 1 |x|
  have hmax : max 1 |q| ≤ 3 / 2 * max 1 |x| := max_le (by linarith) (by linarith)
  rw [abs_sub_comm x q] at htriangle
  linarith

/-- What is very near an integer counts as one. -/
theorem counts_of_near (hq : 2 ^ 51 * |q - x| ≤ max 1 |x|)
    (hk : 2 ^ 52 * |x - k| ≤ max 1 |x|) : 2 ^ 50 * |q - k| ≤ max 1 |q| := by
  have htriangle := abs_sub_le q x k
  have hsize := abs_sub_abs_le_abs_sub x q
  have hone := le_max_left 1 |q|
  have hq' := le_max_right 1 |q|
  rw [abs_sub_comm x q] at hsize
  have hmax : max 1 |x| ≤ 5 / 4 * max 1 |q| := by
    rcases le_total 1 |x| with h | h
    · rw [max_eq_right h] at hq ⊢
      linarith
    · rw [max_eq_left h]
      linarith
  linarith

end

/-! ## Quotients of integers -/

/-- Integers are rounded by the part `2 ^ (-53)` at most. -/
theorem two_pow_mul_abs_toDouble_sub_le {n : ℤ}
    (hn : -9223372036854775808 ≤ n ∧ n < 18446744073709551616) :
    2 ^ 53 * |(int n hn).toDouble.value - n| ≤ |(n : ℚ)| := by
  rcases eq_or_ne n 0 with rfl | hne
  -- The bound for rounding is not relative below 1.
  · obtain ⟨zero, hzero⟩ := Double.exists_value_eq (n := 0) (by decide)
    have hvalue : (int 0 hn).toDouble.value = (0 : ℤ) := (isNearest_toDouble _).value_eq hzero
    rw [hvalue, sub_self, abs_zero, mul_zero]
    exact abs_nonneg _
  · have hlt : n.natAbs < 2 ^ 65 * 1 := by omega
    obtain ⟨d, hd⟩ := Double.exists_ofRatio_eq_some (n < 0) one_pos hlt
    have hdouble : (int n hn).toDouble = d := by rw [toDouble, Double.ofInt?, hd, Option.getD_some]
    have hle := Double.abs_value_sub_le one_pos hd
    have hone : (1 : ℚ) ≤ |(n : ℚ)| := by exact_mod_cast Int.one_le_abs hne
    rwa [Nat.cast_one, div_one, Double.signed_natAbs, max_eq_right hone, ← hdouble] at hle

variable {n d k : ℤ}

/-- **The quotient of two rounded integers** is off by the part `2 ^ (-51)` at most. -/
theorem exists_quotient (hn : -9223372036854775808 ≤ n ∧ n < 18446744073709551616)
    (hd : -9223372036854775808 ≤ d ∧ d < 18446744073709551616) (hpos : 0 < d) :
    ∃ q, (int n hn).toDouble.div? (int d hd).toDouble = some q ∧
      2 ^ 51 * |q.value - n / d| ≤ max 1 |(n / d : ℚ)| := by
  have hdpos : (0 : ℚ) < d := Int.cast_pos.2 hpos
  have hone : (1 : ℚ) ≤ d := by exact_mod_cast hpos
  have hsize : |(n : ℚ)| < 2 ^ 64 := by
    have hlt : |n| < 2 ^ 64 := abs_lt.2 (by omega)
    exact_mod_cast hlt
  have ha := two_pow_mul_abs_toDouble_sub_le hn
  have hb := two_pow_mul_abs_toDouble_sub_le hd
  rw [abs_of_pos hdpos] at hb
  have hlt : |(int n hn).toDouble.value| < 2 ^ 65 * |(int d hd).toDouble.value| := by
    have hupper := abs_sub_abs_le_abs_sub (int n hn).toDouble.value n
    have hlower := (abs_le.1 (show |(int d hd).toDouble.value - d| ≤ d / 2 ^ 53 by linarith)).1
    have habs := le_abs_self (int d hd).toDouble.value
    linarith
  obtain ⟨q, hq, hle⟩ := Double.exists_div?_eq_some hlt
  exact ⟨q, hq, two_pow_mul_abs_sub_le (two_pow_mul_abs_div_sub_le hdpos ha hb) hle⟩

/-- Distances of a quotient to integers, in units of the divisor. -/
theorem mul_abs_div_sub_le_iff (c : ℕ) (hpos : 0 < d) :
    2 ^ c * |(n / d : ℚ) - k| ≤ max 1 |(n / d : ℚ)| ↔ 2 ^ c * |n - k * d| ≤ max d |n| := by
  have hdpos : (0 : ℚ) < d := Int.cast_pos.2 hpos
  have hdistance : |(n / d : ℚ) - k| * d = |(n - k * d : ℚ)| := by
    rw [← abs_of_pos hdpos, ← abs_mul, sub_mul, abs_of_pos hdpos, div_mul_cancel₀ _ hdpos.ne']
  have hsize : |(n / d : ℚ)| * d = |(n : ℚ)| := by
    rw [abs_div, abs_of_pos hdpos, div_mul_cancel₀ _ hdpos.ne']
  rw [← mul_le_mul_iff_of_pos_right hdpos, max_mul_of_nonneg _ _ hdpos.le, one_mul, hsize,
    mul_assoc, hdistance]
  exact_mod_cast Iff.rfl

variable {hn : -9223372036854775808 ≤ n ∧ n < 18446744073709551616}
  {hd : -9223372036854775808 ≤ d ∧ d < 18446744073709551616}

/-- What counts as a multiple by the quotient of doubles is near one. -/
theorem exists_near_of_isQuotientIntegral (hpos : 0 < d)
    (h : (int n hn).isQuotientIntegral (int d hd)) : ∃ k, 2 ^ 49 * |n - k * d| ≤ max d |n| := by
  obtain ⟨q, hq, hle⟩ := exists_quotient hn hd hpos
  rw [isQuotientIntegral, hq] at h
  obtain ⟨k, hk⟩ := Double.isNearlyIntegral_iff.1 h
  exact ⟨k, (mul_abs_div_sub_le_iff 49 hpos).1 (near_of_counts hle hk)⟩

/-- What is very near a multiple counts as one by the quotient of doubles. -/
theorem isQuotientIntegral_of_near (hpos : 0 < d) (h : 2 ^ 52 * |n - k * d| ≤ max d |n|) :
    (int n hn).isQuotientIntegral (int d hd) := by
  obtain ⟨q, hq, hle⟩ := exists_quotient hn hd hpos
  rw [isQuotientIntegral, hq]
  exact Double.isNearlyIntegral_iff.2 ⟨k, counts_of_near hle ((mul_abs_div_sub_le_iff 52 hpos).2 h)⟩

/-- No multiple is missed by the quotient of doubles. -/
theorem isQuotientIntegral_of_dvd (hpos : 0 < d) (h : d ∣ n) :
    (int n hn).isQuotientIntegral (int d hd) := by
  obtain ⟨k, rfl⟩ := h
  refine isQuotientIntegral_of_near (k := k) hpos ?_
  rw [mul_comm d k, sub_self, abs_zero, mul_zero]
  exact le_max_of_le_right (abs_nonneg _)

/-! ## Divisors of integers -/

/-- Rounding hides that an integer is no multiple of another one. One of the two is beyond the
signed range, so that they are divided as doubles, and their quotient counts as an integer. -/
def HidesRemainder (n d : ℤ) (hn : -9223372036854775808 ≤ n ∧ n < 18446744073709551616)
    (hd : -9223372036854775808 ≤ d ∧ d < 18446744073709551616) : Prop :=
  (2 ^ 63 ≤ n ∨ 2 ^ 63 ≤ d) ∧ ¬ d ∣ n ∧ (int n hn).isQuotientIntegral (int d hd)

/-- Integers of the signed range are divided with their remainder. -/
theorem isMultipleOf?_of_signed (hpos : 0 < d) (hrange : n < 2 ^ 63 ∧ d < 2 ^ 63) :
    (int n hn).isMultipleOf? (int d hd) = some (decide (d ∣ n)) := by
  have hmod : (n.tmod d == 0) = decide (d ∣ n) := by
    rw [Bool.eq_iff_iff, beq_iff_eq, decide_eq_true_iff, Int.dvd_iff_tmod_eq_zero]
  rw [isMultipleOf?, toSigned?, toSigned?, if_pos (by omega), if_pos (by omega)]
  simp only
  rw [if_neg hpos.ne', if_neg (by omega), hmod]

/-- Integers beyond the signed range are divided as doubles. -/
theorem isMultipleOf?_of_unsigned (hrange : 2 ^ 63 ≤ n ∨ 2 ^ 63 ≤ d) :
    (int n hn).isMultipleOf? (int d hd) = some ((int n hn).isQuotientIntegral (int d hd)) := by
  have hnone {m : ℤ} {hm : -9223372036854775808 ≤ m ∧ m < 18446744073709551616} (h : 2 ^ 63 ≤ m) :
      (int m hm).toSigned? = none := if_neg (by omega)
  unfold isMultipleOf?
  split
  · rename_i hx hy
    rcases hrange with h | h
    · rw [hnone h] at hx
      cases hx
    · rw [hnone h] at hy
      cases hy
  · rfl

theorem judge_divisibleBy_eq_passed_iff {divisor a : Number} :
    (Constraint.divisibleBy divisor).judge (.num a) = .passed ↔
      a.isMultipleOf? divisor = some true := by
  rw [Constraint.judge, Constraint.judgeDivisor]
  rcases a.isMultipleOf? divisor with _ | (_ | _) <;> simp [Verdict.require]

/-- **Which divisors of an integer pass**: those that divide it, and those whose remainder is
hidden. A remainder is hidden only if one of the two integers is beyond the signed range and a
multiple is as near as `2 ^ (-49)` times the larger of the two; and it is hidden if a multiple is as
near as `2 ^ (-52)` times the larger one. -/
theorem divides_exactly_iff (n d : ℤ) (hn : -9223372036854775808 ≤ n ∧ n < 18446744073709551616)
    (hd : -9223372036854775808 ≤ d ∧ d < 18446744073709551616) (hpos : 0 < d) :
    ((Constraint.divisibleBy (int d hd)).judge (.num (int n hn)) = .passed ↔
        d ∣ n ∨ HidesRemainder n d hn hd) ∧
      (HidesRemainder n d hn hd → ∃ k, 0 < |n - k * d| ∧ 2 ^ 49 * |n - k * d| ≤ max d |n|) ∧
      ∀ k, (2 ^ 63 ≤ n ∨ 2 ^ 63 ≤ d) → ¬ d ∣ n → 2 ^ 52 * |n - k * d| ≤ max d |n| →
        HidesRemainder n d hn hd := by
  refine ⟨?_, ?_, fun k hrange hnot hnear =>
    ⟨hrange, hnot, isQuotientIntegral_of_near hpos hnear⟩⟩
  · rw [judge_divisibleBy_eq_passed_iff]
    by_cases hrange : 2 ^ 63 ≤ n ∨ 2 ^ 63 ≤ d
    · rw [isMultipleOf?_of_unsigned hrange, Option.some_inj]
      refine ⟨fun h => ?_, fun h => h.elim (isQuotientIntegral_of_dvd hpos) fun h => h.2.2⟩
      by_cases hdvd : d ∣ n
      · exact .inl hdvd
      · exact .inr ⟨hrange, hdvd, h⟩
    · rw [isMultipleOf?_of_signed hpos (by omega), Option.some_inj, decide_eq_true_iff]
      exact (or_iff_left fun h => hrange h.1).symm
  · rintro ⟨-, hnot, hcounts⟩
    obtain ⟨k, hk⟩ := exists_near_of_isQuotientIntegral hpos hcounts
    refine ⟨k, abs_pos.2 fun hzero => hnot ⟨k, ?_⟩, hk⟩
    rw [sub_eq_zero.1 hzero, mul_comm]

/-- The greatest even integer is divided by 2. -/
theorem divides_exactly_two :
    (Constraint.divisibleBy (int 2 (by decide))).judge
      (.num (int 18446744073709551614 (by decide))) = .passed :=
  (divides_exactly_iff 18446744073709551614 2 (by decide) (by decide) (by decide)).1.2
    (.inl (by decide))

/-- The first odd integer beyond the signed range passes as a multiple of 2. -/
theorem not_divides_exactly_odd :
    ¬ (2 : ℤ) ∣ 9223372036854775809 ∧
      (Constraint.divisibleBy (int 2 (by decide))).judge
        (.num (int 9223372036854775809 (by decide))) = .passed := by
  refine ⟨by decide, judge_divisibleBy_eq_passed_iff.2 ?_⟩
  decide +kernel

end Number

end JsonSchema
