import JsonSchema.Number.Double

/-!
# The shortest decimal text of a double

A decimal reads back as a double if it lies among the reals that round to it: between the
midpoints to the two neighbours, and on a midpoint only if the mantissa is even. `shortest` finds
the decimal of fewest digits that reads back, and of these the one nearest to the double. `text`
writes it out: positional for decimal exponents from -5 to 15, always with a fraction, and with
an exponent otherwise.
-/

namespace JsonSchema.Double

/-- A double between its midpoints, all three in multiples of `2 ^ (-1076)`. -/
structure Interval where
  low : Nat
  value : Nat
  high : Nat
  /-- Whether the midpoints themselves round to the double. -/
  closed : Bool

/-- The reals that round to a double. -/
def interval (d : Double) : Interval :=
  let step := Nat.pow 2 d.shift
  let below := if d.mantissa = Nat.pow 2 52 ∧ 0 < d.shift then 1 else 2
  { low := 4 * d.magnitude - below * step
    value := 4 * d.magnitude
    high := 4 * d.magnitude + 2 * step
    closed := d.mantissa % 2 = 0 }

/-- Whether `n / d` lies in an interval, given in the same multiples. -/
def Interval.holds (i : Interval) (n d : Nat) : Bool :=
  if i.closed then i.low * d ≤ n && n ≤ i.high * d else i.low * d < n && n < i.high * d

/-- The position of the leading decimal digit of a nonzero double. -/
def leadingPosition (d : Double) : Int :=
  let scaled := d.magnitude * Nat.pow 10 350 / Double.scale
  (Nat.toDigits 10 scaled).length - 1 - 350

/-- The multiple `c * 10 ^ k` nearest to a double that reads back as it, if there is one. -/
def onGrid? (d : Double) (k : Int) : Option Nat :=
  let i := d.interval
  let up := Nat.pow 10 (-k).toNat
  let unit := Nat.pow 2 1076 * Nat.pow 10 k.toNat
  let floor := i.value * up / unit
  let remainder := i.value * up % unit
  let below := i.holds (floor * unit) up
  let above := i.holds ((floor + 1) * unit) up
  let nearer :=
    if 2 * remainder < unit then floor
    else if unit < 2 * remainder then floor + 1
    else floor + floor % 2
  if below && above then some nearer
  else if below then some floor
  else if above then some (floor + 1)
  else none

/-- The first of the grids with `fuel` more digits that has a decimal reading back. -/
def search (d : Double) (position : Int) : Nat → Nat → Nat × Int
  | 0, _ => (0, 0)
  | fuel + 1, digits =>
    let k := position - digits
    match d.onGrid? k with
    | some c => (c, k)
    | none => search d position fuel (digits + 1)

/-- The fewest digits that read back as a nonzero double, with the power of ten that the last
one counts. -/
def shortest (d : Double) : Nat × Int :=
  d.search d.leadingPosition 17 0

/-- A decimal without its trailing zeros. -/
def stripZeros (c : Nat) (k : Int) : Nat → Nat × Int
  | 0 => (c, k)
  | fuel + 1 => if c % 10 = 0 then stripZeros (c / 10) (k + 1) fuel else (c, k)

/-- An exponent as written: sign always. -/
def exponentText (e : Int) : List Char :=
  (if e < 0 then '-' else '+') :: Nat.toDigits 10 e.natAbs

/-- The text of the positive decimal `c * 10 ^ k`, where `c` does not end in a zero. -/
def decimalText (c : Nat) (k : Int) : List Char :=
  let digits := Nat.toDigits 10 c
  let point := digits.length + k
  if 0 ≤ k ∧ point ≤ 16 then digits ++ List.replicate k.toNat '0' ++ ['.', '0']
  else if 0 < point ∧ point ≤ 16 then
    digits.take point.toNat ++ '.' :: digits.drop point.toNat
  else if -5 < point ∧ point ≤ 0 then
    '0' :: '.' :: List.replicate (-point).toNat '0' ++ digits
  else
    match digits with
    | [d] => d :: 'e' :: exponentText (point - 1)
    | d :: rest => d :: '.' :: rest ++ 'e' :: exponentText (point - 1)
    | [] => []

/-- A double as text. -/
def text (d : Double) : List Char :=
  let sign := if d.negative then ['-'] else []
  if d.magnitude = 0 then sign ++ ['0', '.', '0']
  else
    let (c, k) := d.shortest
    let (c, k) := stripZeros c k 17
    sign ++ decimalText c k

end JsonSchema.Double
