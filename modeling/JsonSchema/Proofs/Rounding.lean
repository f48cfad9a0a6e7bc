import JsonSchema.Number.Double
import Mathlib

/-!
# Rounding to doubles

`Double.ofRatio` keeps the leading 53 bits of a quotient. No double is nearer to the quotient than
the one that it gives, and so rounding keeps the order of a number and a double, up to equality.

* `Double.value`: the number that a double stands for.
* `Double.IsNearest`: no double is nearer to a number.
* `Double.abs_roundHalfEven_sub_le`: rounding to integers gives the nearest one.
* `Double.isNearest_of_ofRatio`: rounding to doubles gives a nearest one.
* `Double.abs_value_sub_le`: how far rounding to doubles may be off.
* `Double.exists_ofRatio_eq_some`: quotients below `2 ^ 65` are rounded to finite doubles.
* `Double.IsNearest.value_eq`: a number that is a double is kept.
-/

namespace JsonSchema

namespace Double

/-! ## Rounding to integers -/

/-- Rounding to an integer is off by a half at most. -/
theorem two_mul_abs_roundHalfEven_sub_le (n : ℕ) {d : ℕ} (hd : 0 < d) :
    2 * |(roundHalfEven n d * d : ℤ) - n| ≤ d := by
  have hn := Nat.div_add_mod' n d
  have hr := Nat.mod_lt n hd
  have habs {m : ℕ} (h₁ : 2 * (m * d) ≤ 2 * n + d) (h₂ : 2 * n ≤ 2 * (m * d) + d) :
      2 * |(m * d : ℤ) - n| ≤ d := by
    rw [← Nat.cast_mul]
    rcases abs_cases (((m * d : ℕ) : ℤ) - n) with ⟨h, -⟩ | ⟨h, -⟩ <;> omega
  have hup : (n / d + 1) * d = n / d * d + d := Nat.succ_mul _ _
  simp only [roundHalfEven]
  split
  · exact habs (by omega) (by omega)
  · split
    · exact habs (by omega) (by omega)
    · rcases Nat.mod_two_eq_zero_or_one (n / d) with h | h
      · rw [h, Nat.add_zero]
        exact habs (by omega) (by omega)
      · rw [h]
        exact habs (by omega) (by omega)

/-- No multiple is nearer than one that is off by a half at most. -/
theorem abs_mul_sub_le {m n : ℤ} {d : ℕ} (hhalf : 2 * |m * d - n| ≤ d) (k : ℤ) :
    |m * d - n| ≤ |k * d - n| := by
  rcases eq_or_ne k m with rfl | hne
  · exact le_rfl
  -- Another multiple of `d` is at least `d` away from the one that is at most half as far.
  · have hapart : (d : ℤ) ≤ |(k - m) * d| := by
      rw [abs_mul, Nat.abs_cast]
      exact le_mul_of_one_le_left (Int.natCast_nonneg d) (Int.one_le_abs (sub_ne_zero.2 hne))
    have htriangle := abs_sub (k * d - n : ℤ) (m * d - n)
    rw [sub_sub_sub_cancel_right, ← sub_mul] at htriangle
    linarith

/-- **Rounding gives the nearest integer.** -/
theorem abs_roundHalfEven_sub_le (n : ℕ) {d : ℕ} (hd : 0 < d) (k : ℤ) :
    |(roundHalfEven n d * d : ℤ) - n| ≤ |k * d - n| :=
  abs_mul_sub_le (two_mul_abs_roundHalfEven_sub_le n hd) k

theorem div_le_roundHalfEven (n d : ℕ) : n / d ≤ roundHalfEven n d := by
  simp only [roundHalfEven]
  split_ifs <;> omega

theorem roundHalfEven_le (n d : ℕ) : roundHalfEven n d ≤ n / d + 1 := by
  simp only [roundHalfEven]
  split_ifs <;> omega

/-! ## What doubles stand for -/

theorem scale_eq : scale = 2 ^ 1074 := by
  unfold scale
  generalize 1074 = k
  rfl

theorem scale_pos : 0 < scale := by
  rw [scale_eq]
  positivity

theorem two_pow_le_scale {k : ℕ} (h : k ≤ 1074) : 2 ^ k ≤ scale := by
  rw [scale_eq]
  generalize 1074 = m at h
  exact Nat.pow_le_pow_right two_pos h

/-- The number that a double stands for. -/
def value (d : Double) : ℚ :=
  d.units / scale

theorem abs_units (d : Double) : |d.units| = d.magnitude := by
  unfold units
  split
  · rw [abs_neg, Nat.abs_cast]
  · rw [Nat.abs_cast]

/-- The order of doubles is the order of what they stand for. -/
theorem order_eq (a b : Double) : a.order b = compare a.value b.value := by
  have hmono : StrictMono fun units : ℤ => (units / scale : ℚ) := fun x y h =>
    div_lt_div_of_pos_right (Int.cast_lt.2 h) (Nat.cast_pos.2 scale_pos)
  have hcmp := hmono.cmp_map_eq a.units b.units
  rw [cmp_eq_compare, cmp_eq_compare] at hcmp
  exact hcmp.symm

theorem abs_value (d : Double) : |d.value| = d.magnitude / scale := by
  rw [value, abs_div, Nat.abs_cast, ← Int.cast_abs, abs_units, Int.cast_natCast]

/-- A quotient with a sign. -/
def signed (negative : Bool) (q : ℚ) : ℚ :=
  if negative then -q else q

theorem value_eq_signed (d : Double) : d.value = signed d.negative (d.magnitude / scale) := by
  unfold value units signed
  split
  · rw [Int.cast_neg, neg_div, Int.cast_natCast]
  · rw [Int.cast_natCast]

theorem abs_signed (negative : Bool) (q : ℚ) : |signed negative q| = |q| := by
  unfold signed
  split
  · exact abs_neg q
  · rfl

theorem signed_sub (negative : Bool) (q r : ℚ) :
    signed negative q - signed negative r = signed negative (q - r) := by
  unfold signed
  split
  · rw [neg_sub_neg, neg_sub]
  · rfl

/-- A double whose digits reach beyond the first 53 of a place is a multiple of this place. -/
theorem two_pow_dvd_magnitude (e : Double) {s : ℕ} (h : 2 ^ (52 + s) ≤ e.magnitude) :
    2 ^ s ∣ e.magnitude := by
  have hm : e.mantissa < 2 ^ 53 := e.canonical.1
  have hlt : e.magnitude < 2 ^ (53 + e.shift) := by
    rw [pow_add]
    exact Nat.mul_lt_mul_of_pos_right hm (Nat.two_pow_pos _)
  have hs : s ≤ e.shift := by
    have := (Nat.pow_lt_pow_iff_right (by decide : 1 < 2)).1 (h.trans_lt hlt)
    omega
  exact Dvd.dvd.mul_left (pow_dvd_pow 2 hs) _

/-! ## Rounding to doubles -/

variable {negative : Bool} {numerator denominator : ℕ} {d : Double}

theorem of_ofParts? {mantissa shift : ℕ} (h : ofParts? negative mantissa shift = some d) :
    d.negative = negative ∧ d.magnitude = mantissa * 2 ^ shift := by
  obtain ⟨hc, h⟩ := Option.dite_none_right_eq_some.1 h
  cases h
  exact ⟨rfl, rfl⟩

/-- The place of the last digit that is kept of a quotient. -/
def lastPlace (numerator denominator : ℕ) : ℕ :=
  (numerator * scale / denominator).log2 - 52

/-- The digits that are kept of a quotient. -/
def kept (numerator denominator : ℕ) : ℕ :=
  roundHalfEven (numerator * scale) (denominator * Nat.pow 2 (lastPlace numerator denominator))

/-- A mantissa of one bit too many is a power of two. -/
theorem carry (k s : ℕ) : Nat.pow 2 k * Nat.pow 2 (s + 1) = Nat.pow 2 (k + 1) * 2 ^ s := by
  simp only [Nat.pow_eq, pow_succ]
  ring

theorem of_ofRatio (h : ofRatio negative numerator denominator = some d) :
    d.negative = negative ∧
      d.magnitude = kept numerator denominator * 2 ^ lastPlace numerator denominator := by
  unfold ofRatio at h
  extract_lets n shift mantissa at h
  by_cases hcarry : mantissa = Nat.pow 2 53
  · rw [if_pos hcarry] at h
    obtain ⟨hn, hm⟩ := of_ofParts? h
    refine ⟨hn, hm.trans ?_⟩
    change _ = mantissa * 2 ^ shift
    rw [hcarry]
    exact carry 52 shift
  · rw [if_neg hcarry] at h
    exact of_ofParts? h

/-- A quotient has digits at its last place, unless this is the last place of all. -/
theorem two_pow_le_of_lastPlace (hd : 0 < denominator)
    (h : lastPlace numerator denominator ≠ 0) :
    2 ^ (52 + lastPlace numerator denominator) * denominator ≤ numerator * scale := by
  unfold lastPlace at h ⊢
  set q := numerator * scale / denominator with hq
  have hlog : 52 + (q.log2 - 52) = q.log2 := by omega
  have hne : q ≠ 0 := by
    intro hzero
    rw [hzero] at h
    exact h rfl
  rw [hlog]
  exact (Nat.le_div_iff_mul_le hd).1 (Nat.log2_self_le hne)

/-- No multiple of the last place is nearer in size. -/
theorem abs_magnitude_sub_le_mul (hd : 0 < denominator)
    (h : ofRatio negative numerator denominator = some d) (k : ℕ) :
    |(d.magnitude * denominator : ℤ) - (numerator * scale : ℕ)| ≤
      |((k * 2 ^ lastPlace numerator denominator : ℕ) * denominator : ℤ) -
        (numerator * scale : ℕ)| := by
  obtain ⟨-, hmagnitude⟩ := of_ofRatio h
  unfold kept at hmagnitude
  generalize lastPlace numerator denominator = s at hmagnitude ⊢
  have hround := abs_roundHalfEven_sub_le (numerator * scale)
    (Nat.mul_pos hd (Nat.two_pow_pos s)) k
  have hplace (m : ℕ) : ((m * 2 ^ s : ℕ) * denominator : ℤ) = m * (denominator * 2 ^ s : ℕ) := by
    push_cast
    ring
  rw [hmagnitude, hplace, hplace]
  exact hround

/-- **No double is nearer in size.** A double that is no multiple of the last place has fewer
digits, and so lies on the other side of `2 ^ 52` times this place. -/
theorem abs_magnitude_sub_le (hd : 0 < denominator)
    (h : ofRatio negative numerator denominator = some d) (e : Double) :
    |(d.magnitude * denominator : ℤ) - (numerator * scale : ℕ)| ≤
      |(e.magnitude * denominator : ℤ) - (numerator * scale : ℕ)| := by
  have hgrid := abs_magnitude_sub_le_mul hd h
  have hratio : lastPlace numerator denominator ≠ 0 → _ := two_pow_le_of_lastPlace hd
  generalize lastPlace numerator denominator = s at hgrid hratio
  generalize numerator * scale = n at hgrid hratio ⊢
  by_cases hdvd : 2 ^ s ∣ e.magnitude
  · obtain ⟨k, hk⟩ := hdvd
    rw [hk, mul_comm (2 ^ s)]
    exact hgrid k
  · have hs : s ≠ 0 := by
      rintro rfl
      exact hdvd (one_dvd _)
    have hless : e.magnitude < 2 ^ (52 + s) := by
      by_contra hle
      exact hdvd (e.two_pow_dvd_magnitude (not_lt.1 hle))
    have hbetween := hgrid (2 ^ 52)
    rw [← pow_add] at hbetween
    have hbelow : e.magnitude * denominator ≤ 2 ^ (52 + s) * denominator :=
      Nat.mul_le_mul_right _ hless.le
    have habove := hratio hs
    refine hbetween.trans ?_
    generalize 2 ^ (52 + s) = p at hbelow habove
    rw [← Nat.cast_mul, ← Nat.cast_mul, abs_of_nonpos (by omega), abs_of_nonpos (by omega)]
    omega

/-- No double is nearer to a number. -/
def IsNearest (d : Double) (q : ℚ) : Prop :=
  ∀ e : Double, |d.value - q| ≤ |e.value - q|

/-- **Rounding gives a nearest double.** -/
theorem isNearest_of_ofRatio (hd : 0 < denominator)
    (h : ofRatio negative numerator denominator = some d) :
    d.IsNearest (signed negative (numerator / denominator)) := by
  intro e
  have hscale : (0 : ℚ) < scale := Nat.cast_pos.2 scale_pos
  have hden : (0 : ℚ) < denominator := Nat.cast_pos.2 hd
  have hsize (m : ℕ) : |(m / scale - numerator / denominator : ℚ)| =
      (|(m * denominator : ℤ) - (numerator * scale : ℕ)| : ℤ) / (scale * denominator) := by
    rw [div_sub_div _ _ hscale.ne' hden.ne', abs_div, abs_of_pos (mul_pos hscale hden)]
    push_cast
    rw [mul_comm (scale : ℚ) numerator]
  have hnear : |(d.magnitude / scale - numerator / denominator : ℚ)| ≤
      |(e.magnitude / scale - numerator / denominator : ℚ)| := by
    rw [hsize, hsize]
    exact div_le_div_of_nonneg_right (Int.cast_le.2 (abs_magnitude_sub_le hd h e))
      (mul_pos hscale hden).le
  rw [d.value_eq_signed, (of_ofRatio h).1, signed_sub, abs_signed]
  refine hnear.trans ?_
  -- The sign of `e` can only lead away.
  have hsign := abs_abs_sub_abs_le e.value (signed negative (numerator / denominator))
  rwa [abs_value, abs_signed, abs_of_nonneg (div_nonneg (Nat.cast_nonneg _) hden.le)] at hsign

/-- Rounding is off by half of the last place at most, and so by the part `2 ^ (-53)` of what is
rounded; of small quotients, by a number that is far smaller still. -/
theorem abs_magnitude_sub_le_max (hd : 0 < denominator)
    (h : ofRatio negative numerator denominator = some d) :
    2 ^ 53 * |(d.magnitude * denominator : ℤ) - (numerator * scale : ℕ)| ≤
      max (scale * denominator : ℤ) (numerator * scale : ℕ) := by
  obtain ⟨-, hmagnitude⟩ := of_ofRatio h
  rw [kept, Nat.pow_eq] at hmagnitude
  have hratio : lastPlace numerator denominator ≠ 0 → _ := two_pow_le_of_lastPlace hd
  have hscale : 2 ^ 52 ≤ scale := two_pow_le_scale (by decide)
  generalize lastPlace numerator denominator = s at hmagnitude hratio
  generalize numerator * scale = n at hmagnitude hratio ⊢
  have hhalf := two_mul_abs_roundHalfEven_sub_le n (Nat.mul_pos hd (Nat.two_pow_pos s))
  have hplace : 2 ^ 52 * (denominator * 2 ^ s) ≤ max (scale * denominator) n := by
    rcases eq_or_ne s 0 with rfl | hs
    · rw [pow_zero, mul_one]
      exact le_max_of_le_left (Nat.mul_le_mul_right _ hscale)
    · have hn := hratio hs
      rw [pow_add, mul_assoc, mul_comm (2 ^ s)] at hn
      exact le_max_of_le_right hn
  have hkept : (d.magnitude * denominator : ℤ) =
      roundHalfEven n (denominator * 2 ^ s) * (denominator * 2 ^ s : ℕ) := by
    rw [hmagnitude]
    push_cast
    ring
  rw [← hkept] at hhalf
  calc 2 ^ 53 * |(d.magnitude * denominator : ℤ) - n|
      = 2 ^ 52 * (2 * |(d.magnitude * denominator : ℤ) - n|) := by ring
    _ ≤ 2 ^ 52 * ((denominator * 2 ^ s : ℕ) : ℤ) := mul_le_mul_of_nonneg_left hhalf (by decide)
    _ ≤ max (scale * denominator : ℤ) n := by exact_mod_cast hplace

/-- **Rounding is off by the part `2 ^ (-53)` at most.** -/
theorem abs_value_sub_le (hd : 0 < denominator)
    (h : ofRatio negative numerator denominator = some d) :
    2 ^ 53 * |d.value - signed negative (numerator / denominator)| ≤
      max 1 |signed negative (numerator / denominator)| := by
  have hscale : (0 : ℚ) < scale := Nat.cast_pos.2 scale_pos
  have hden : (0 : ℚ) < denominator := Nat.cast_pos.2 hd
  have hle := (Int.cast_le (R := ℚ)).2 (abs_magnitude_sub_le_max hd h)
  push_cast at hle
  rw [d.value_eq_signed, (of_ofRatio h).1, signed_sub, abs_signed, abs_signed,
    abs_of_nonneg (div_nonneg (Nat.cast_nonneg numerator) hden.le),
    div_sub_div _ _ hscale.ne' hden.ne', abs_div, abs_of_pos (mul_pos hscale hden), ← mul_div_assoc,
    div_le_iff₀ (mul_pos hscale hden), max_mul_of_nonneg _ _ (mul_pos hscale hden).le, one_mul,
    div_mul_eq_mul_div, mul_div_assoc, mul_div_cancel_right₀ _ hden.ne',
    mul_comm (scale : ℚ) numerator]
  exact hle

/-! ## Quotients that are not too large -/

theorem kept_le (numerator denominator : ℕ) : kept numerator denominator ≤ 2 ^ 53 := by
  refine (roundHalfEven_le _ _).trans (Nat.succ_le_of_lt ?_)
  rw [Nat.pow_eq, ← Nat.div_div_eq_div_mul, Nat.div_lt_iff_lt_mul (Nat.two_pow_pos _)]
  refine Nat.lt_log2_self.trans_le ?_
  rw [← pow_add]
  refine Nat.pow_le_pow_right two_pos ?_
  unfold lastPlace
  omega

theorem le_kept (hd : 0 < denominator) (h : lastPlace numerator denominator ≠ 0) :
    2 ^ 52 ≤ kept numerator denominator := by
  refine le_trans ?_ (div_le_roundHalfEven _ _)
  rw [Nat.pow_eq, Nat.le_div_iff_mul_le (Nat.mul_pos hd (Nat.two_pow_pos _)), mul_left_comm,
    ← pow_add, mul_comm]
  exact two_pow_le_of_lastPlace hd h

theorem lastPlace_le (hd : 0 < denominator) (h : numerator < 2 ^ 65 * denominator) :
    lastPlace numerator denominator ≤ 1086 := by
  have hlt : numerator * scale / denominator < 2 ^ (65 + 1074) := by
    rw [pow_add, ← scale_eq, Nat.div_lt_iff_lt_mul hd, mul_right_comm]
    exact Nat.mul_lt_mul_of_pos_right h scale_pos
  unfold lastPlace
  rcases eq_or_ne (numerator * scale / denominator) 0 with hzero | hne
  · rw [hzero]
    decide
  · have hlog := (Nat.log2_lt hne).2 hlt
    omega

/-- **Quotients of 65 bits are rounded to finite doubles.** -/
theorem exists_ofRatio_eq_some (negative : Bool) (hd : 0 < denominator)
    (h : numerator < 2 ^ 65 * denominator) :
    ∃ d, ofRatio negative numerator denominator = some d := by
  have hplace := lastPlace_le hd h
  have hupper := kept_le numerator denominator
  have hlower : lastPlace numerator denominator ≠ 0 → _ := le_kept hd
  have hparts {mantissa shift : ℕ} (hc : Canonical mantissa shift) :
      ∃ d, ofParts? negative mantissa shift = some d :=
    ⟨_, dif_pos hc⟩
  unfold ofRatio
  extract_lets n shift mantissa
  by_cases hcarry : mantissa = Nat.pow 2 53
  · rw [if_pos hcarry]
    exact hparts ⟨by decide, (Nat.succ_le_succ hplace).trans (by decide), .inl le_rfl⟩
  · rw [if_neg hcarry]
    refine hparts ⟨lt_of_le_of_ne hupper hcarry, hplace.trans (by decide), ?_⟩
    exact (em (shift = 0)).symm.imp hlower id

/-! ## Nearest doubles -/

namespace IsNearest

variable {e : Double} {q : ℚ}

/-- A double beyond the nearest one is beyond the number. -/
theorem lt_of_lt (h : d.IsNearest q) (hlt : d.value < e.value) : q < e.value := by
  by_contra hle
  have hnear := h e
  rw [abs_of_nonpos (by linarith), abs_of_nonpos (by linarith)] at hnear
  linarith

theorem gt_of_gt (h : d.IsNearest q) (hgt : e.value < d.value) : e.value < q := by
  by_contra hle
  have hnear := h e
  rw [abs_of_nonneg (by linarith), abs_of_nonneg (by linarith)] at hnear
  linarith

theorem le_of_le (h : d.IsNearest q) (hle : e.value ≤ q) : e.value ≤ d.value :=
  not_lt.1 fun hlt => hle.not_gt (h.lt_of_lt hlt)

theorem ge_of_ge (h : d.IsNearest q) (hge : q ≤ e.value) : d.value ≤ e.value :=
  not_lt.1 fun hgt => hge.not_gt (h.gt_of_gt hgt)

/-- **A number that is a double is kept.** -/
theorem value_eq (h : d.IsNearest q) (he : e.value = q) : d.value = q :=
  le_antisymm ((h.ge_of_ge he.ge).trans_eq he) (he.ge.trans (h.le_of_le he.le))

/-- A nearest double compares as the number does, unless it is the double compared with. -/
theorem compare_eq (h : d.IsNearest q) (hne : d.value ≠ e.value) :
    compare d.value e.value = compare q e.value := by
  rcases hne.lt_or_gt with hlt | hgt
  · rw [compare_lt_iff_lt.2 hlt, compare_lt_iff_lt.2 (h.lt_of_lt hlt)]
  · rw [compare_gt_iff_gt.2 hgt, compare_gt_iff_gt.2 (h.gt_of_gt hgt)]

theorem compare_eq' (h : d.IsNearest q) (hne : e.value ≠ d.value) :
    compare e.value d.value = compare e.value q := by
  rcases hne.lt_or_gt with hlt | hgt
  · rw [compare_lt_iff_lt.2 hlt, compare_lt_iff_lt.2 (h.gt_of_gt hlt)]
  · rw [compare_gt_iff_gt.2 hgt, compare_gt_iff_gt.2 (h.lt_of_lt hgt)]

end IsNearest

/-! ## Integers -/

/-- A number of 53 bits, moved to the left, is the size of a double. -/
theorem exists_magnitude_eq (negative : Bool) {m j : ℕ} (hm : m < 2 ^ 53) (hj : j ≤ 971) :
    ∃ e : Double, e.negative = negative ∧ e.magnitude = m * 2 ^ j * scale := by
  rcases Nat.eq_zero_or_pos m with rfl | hpos
  · refine ⟨zero negative, rfl, ?_⟩
    rw [zero_mul, zero_mul, magnitude, zero, zero_mul]
  -- The leading bit goes to the leading place.
  have hlog : m.log2 < 53 := (Nat.log2_lt hpos.ne').2 hm
  have hcanonical : Canonical (m * 2 ^ (52 - m.log2)) (1022 + m.log2 + j) := by
    refine ⟨?_, by omega, .inl ?_⟩
    · calc m * 2 ^ (52 - m.log2) < 2 ^ (m.log2 + 1) * 2 ^ (52 - m.log2) :=
            Nat.mul_lt_mul_of_pos_right Nat.lt_log2_self (Nat.two_pow_pos _)
        _ = 2 ^ 53 := by rw [← pow_add]; congr 1; omega
    · calc 2 ^ 52 = 2 ^ m.log2 * 2 ^ (52 - m.log2) := by rw [← pow_add]; congr 1; omega
        _ ≤ m * 2 ^ (52 - m.log2) := Nat.mul_le_mul_right _ (Nat.log2_self_le hpos.ne')
  refine ⟨⟨negative, _, _, hcanonical⟩, rfl, ?_⟩
  have hplaces : 52 - m.log2 + (1022 + m.log2 + j) = j + 1074 := by omega
  rw [magnitude, Nat.pow_eq, mul_assoc, ← pow_add, hplaces, pow_add, ← scale_eq, mul_assoc]

theorem signed_natAbs (n : ℤ) : signed (n < 0) n.natAbs = n := by
  unfold signed
  rw [Nat.cast_natAbs]
  rcases lt_or_ge n 0 with h | h
  · rw [if_pos (decide_eq_true h), abs_of_neg h, Int.cast_neg, neg_neg]
  · rw [if_neg (by simpa using h), abs_of_nonneg h]

/-- **The integers of 53 bits are doubles.** -/
theorem exists_value_eq {n : ℤ} (h : n.natAbs ≤ 2 ^ 53) : ∃ e : Double, e.value = n := by
  obtain ⟨m, j, hm, hj, hn⟩ : ∃ m j, m < 2 ^ 53 ∧ j ≤ 971 ∧ m * 2 ^ j = n.natAbs := by
    rcases h.lt_or_eq with hlt | heq
    · exact ⟨n.natAbs, 0, hlt, Nat.zero_le _, by rw [pow_zero, mul_one]⟩
    · exact ⟨1, 53, by decide, by decide, by rw [heq, one_mul]⟩
  obtain ⟨e, hsign, hsize⟩ := exists_magnitude_eq (n < 0) hm hj
  rw [hn] at hsize
  have hscale : (scale : ℚ) ≠ 0 := Nat.cast_ne_zero.2 scale_pos.ne'
  refine ⟨e, ?_⟩
  rw [value_eq_signed, hsize, hsign, Nat.cast_mul, mul_div_cancel_right₀ _ hscale, signed_natAbs]

/-- **Integers of 64 bits are rounded to a nearest double.** -/
theorem exists_ofInt?_eq_some {n : ℤ} (h : n.natAbs < 2 ^ 64) :
    ∃ d, ofInt? n = some d ∧ d.IsNearest n := by
  obtain ⟨d, hd⟩ := exists_ofRatio_eq_some (n < 0) one_pos (h.trans (by decide))
  have hnear := isNearest_of_ofRatio one_pos hd
  rw [Nat.cast_one, div_one, signed_natAbs] at hnear
  exact ⟨d, hd, hnear⟩

end Double

end JsonSchema
