import JsonSchema.Number.Shortest

/-!
# JSON numbers

A number is an integer of 64 bits, signed or unsigned, or a double. Numbers compare by value:
exactly if both fit one of the two integer ranges, and as doubles otherwise. The same holds for
divisibility, which is exact for two signed integers and a test on the quotient of doubles
otherwise.
-/

namespace JsonSchema

/-- A number of a JSON document. -/
inductive Number
  /-- A number written without fraction and exponent that fits 64 bits: at least `-2 ^ 63` and below
  `2 ^ 64`. -/
  | int (value : Int) (inRange : -9223372036854775808 ≤ value ∧ value < 18446744073709551616)
  /-- Any other number. -/
  | real (value : Double)
  deriving DecidableEq

namespace Number

/-- The number for an integer, if it fits 64 bits. -/
def ofInt? (n : Int) : Option Number :=
  if h : -9223372036854775808 ≤ n ∧ n < 18446744073709551616 then some (.int n h) else none

/-- The number for a natural number: an integer if it fits 64 bits, else the nearest double. -/
def ofNat (n : Nat) : Number :=
  (ofInt? n).getD (.real ((Double.ofInt? n).getD (Double.largest false)))

/-- The value of an integer in the signed range. -/
def toSigned? : Number → Option Int
  | .int n _ => if n < 9223372036854775808 then some n else none
  | .real _ => none

/-- The value of an integer in the unsigned range. -/
def toUnsigned? : Number → Option Nat
  | .int n _ => if 0 ≤ n then some n.toNat else none
  | .real _ => none

/-- The double nearest to a number. -/
def toDouble : Number → Double
  | .int n _ => (Double.ofInt? n).getD (Double.largest (n < 0))
  | .real d => d

/-- Whether a number is an integer. -/
def isInteger : Number → Bool
  | .int _ _ => true
  | .real _ => false

/-- The order of two numbers. -/
def order (a b : Number) : Ordering :=
  match a.toSigned?, b.toSigned? with
  | some x, some y => compare x y
  | _, _ =>
    match a.toUnsigned?, b.toUnsigned? with
    | some x, some y => compare x y
    | _, _ => a.toDouble.order b.toDouble

/-- Whether two numbers have the same value. -/
def sameValue (a b : Number) : Bool :=
  a.order b == .eq

/-- Whether `n` is a multiple of `divisor`, by the double quotient. -/
def isQuotientIntegral (n divisor : Number) : Bool :=
  match n.toDouble.div? divisor.toDouble with
  | some q => q.isNearlyIntegral
  | none => false

/-- Whether `n` is a multiple of `divisor`. `none` stands for the one remainder of signed
integers that overflows, the least one by -1. -/
def isMultipleOf? (n divisor : Number) : Option Bool :=
  match n.toSigned?, divisor.toSigned? with
  | some x, some d =>
    if d = 0 then some (n.isQuotientIntegral divisor)
    else if x = -9223372036854775808 ∧ d = -1 then none
    else some (x.tmod d == 0)
  | _, _ => some (n.isQuotientIntegral divisor)

/-- A number as text: integers in decimal, doubles by their shortest digits. -/
def text : Number → List Char
  | .int n _ => (if n < 0 then ['-'] else []) ++ Nat.toDigits 10 n.natAbs
  | .real d => d.text

end Number

end JsonSchema
