/-!
# Finite binary floating-point numbers

A `Double` is a finite number of the 64-bit binary format, kept as an exact multiple of the
smallest positive one: `units` is the number divided by `2 ^ (-1074)`. Every operation is exact
arithmetic on `units` followed by one rounding (`Double.ofRatio`, to the nearest, ties to the even
mantissa), so comparisons of doubles are comparisons of integers.
-/

namespace JsonSchema

/-- A mantissa of 53 bits that is shifted left by at most 2045 places, and shifted at all only
if it uses all 53 bits. -/
def Double.Canonical (mantissa shift : Nat) : Prop :=
  mantissa < Nat.pow 2 53 ∧ shift ≤ 2045 ∧ (Nat.pow 2 52 ≤ mantissa ∨ shift = 0)

instance (mantissa shift : Nat) : Decidable (Double.Canonical mantissa shift) :=
  inferInstanceAs (Decidable (_ ∧ _ ∧ _))

/-- A finite double: `mantissa * 2 ^ shift` times `2 ^ (-1074)`, with a sign. -/
structure Double where
  negative : Bool
  mantissa : Nat
  shift : Nat
  canonical : Double.Canonical mantissa shift
  deriving DecidableEq

namespace Double

/-- The size of a double in multiples of `2 ^ (-1074)`. -/
def magnitude (d : Double) : Nat :=
  d.mantissa * Nat.pow 2 d.shift

/-- A double in multiples of `2 ^ (-1074)`. -/
def units (d : Double) : Int :=
  if d.negative then -(d.magnitude : Int) else d.magnitude

/-- The number 1 in multiples of `2 ^ (-1074)`. -/
def scale : Nat :=
  Nat.pow 2 1074

/-- The zero of either sign. -/
def zero (negative : Bool) : Double :=
  ⟨negative, 0, 0, by decide⟩

/-- The largest finite double. -/
def largest (negative : Bool) : Double :=
  ⟨negative, Nat.pow 2 53 - 1, 2045, by decide⟩

/-- The quotient of two natural numbers to the nearest integer, a half to the even one. -/
def roundHalfEven (n d : Nat) : Nat :=
  let q := n / d
  let r := n % d
  if 2 * r < d then q
  else if d < 2 * r then q + 1
  else q + q % 2

/-- The double of a sign, a mantissa and a shift; `none` if they are not canonical. -/
def ofParts? (negative : Bool) (mantissa shift : Nat) : Option Double :=
  if h : Canonical mantissa shift then some ⟨negative, mantissa, shift, h⟩ else none

/-- The double nearest to `numerator / denominator`, ties to the even mantissa; `none` if it
lies beyond the finite ones. -/
def ofRatio (negative : Bool) (numerator denominator : Nat) : Option Double :=
  let n := numerator * scale
  let shift := (n / denominator).log2 - 52
  let mantissa := roundHalfEven n (denominator * Nat.pow 2 shift)
  if mantissa = Nat.pow 2 53 then ofParts? negative (Nat.pow 2 52) (shift + 1)
  else ofParts? negative mantissa shift

/-- The double nearest to an integer; `none` if it lies beyond the finite ones. -/
def ofInt? (n : Int) : Option Double :=
  ofRatio (n < 0) n.natAbs 1

/-- The double nearest to `digits * 10 ^ exponent`; `none` if it lies beyond the finite ones.
Exponents that leave no doubt are decided before any power is computed. -/
def ofDecimal? (negative : Bool) (digits : Nat) (exponent : Int) : Option Double :=
  let magnitude := exponent + digits.log2 / 3
  if digits = 0 ∨ magnitude < -400 then some (zero negative)
  else if 400 < exponent then none
  else if 0 ≤ exponent then ofRatio negative (digits * Nat.pow 10 exponent.toNat) 1
  else ofRatio negative digits (Nat.pow 10 (-exponent).toNat)

/-- The quotient of two doubles to the nearest double; `none` if it lies beyond the finite ones,
or if the divisor is a zero. -/
def div? (a b : Double) : Option Double :=
  if b.magnitude = 0 then none
  else ofRatio (a.negative != b.negative) a.magnitude b.magnitude

/-- Whether a double is an integer up to a few units in its last place: its distance to the
nearest integer is at most `2 ^ (-50)` times the larger of its size and 1. -/
def isNearlyIntegral (d : Double) : Bool :=
  let nearest := (2 * d.magnitude + scale) / (2 * scale) * scale
  let distance := (d.magnitude - nearest) + (nearest - d.magnitude)
  distance * Nat.pow 2 50 ≤ max d.magnitude scale

/-- The order of two doubles by value; the zeros of both signs are equal. -/
def order (a b : Double) : Ordering :=
  compare a.units b.units

end Double

end JsonSchema
