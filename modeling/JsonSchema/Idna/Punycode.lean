/-!
# Punycode

A text with characters beyond ASCII is written in ASCII: first its ASCII characters, then, after a
hyphen, the places of the others as numbers of variable length in base 36, in the order of their
code points. `Punycode.encode` writes this form and `Punycode.decode?` reads it.
-/

namespace JsonSchema.Punycode

/-- The digit of a number below 36: letters, then decimal digits. -/
def digitChar (d : Nat) : Char :=
  if d < 26 then Char.ofNat ('a'.toNat + d) else Char.ofNat ('0'.toNat + (d - 26))

/-- The number of a digit. -/
def digitValue? (c : Char) : Option Nat :=
  if 'a' ≤ c ∧ c ≤ 'z' then some (c.toNat - 'a'.toNat)
  else if 'A' ≤ c ∧ c ≤ 'Z' then some (c.toNat - 'A'.toNat)
  else if '0' ≤ c ∧ c ≤ '9' then some (c.toNat - '0'.toNat + 26)
  else none

/-- The least value with which digit `k` of a number ends it. -/
def threshold (k bias : Nat) : Nat :=
  max 1 (min 26 (36 * (k + 1) - bias))

/-- Divides by 35 as long as the number is above 455, counting 36 for each time. -/
def shrink (delta : Nat) : Nat × Nat :=
  if 455 < delta then
    let (d, k) := shrink (delta / 35)
    (d, k + 36)
  else (delta, 0)
  termination_by delta
  decreasing_by omega

/-- The bias after a number: `count` characters are known, and `first` tells if it was the first. -/
def adapt (delta count : Nat) (first : Bool) : Nat :=
  let delta := if first then delta / 700 else delta / 2
  let (d, k) := shrink (delta + delta / count)
  k + 36 * d / (d + 38)

/-- The digits of a number, from digit `k` on. -/
def digits (bias k q : Nat) : List Char :=
  let t := threshold k bias
  if q < t then [digitChar q]
  else digitChar (t + (q - t) % (36 - t)) :: digits bias (k + 1) ((q - t) / (36 - t))
  termination_by q
  decreasing_by
    rename_i h
    have ht : 1 ≤ threshold k bias := Nat.le_max_left _ _
    exact Nat.lt_of_le_of_lt (Nat.div_le_self _ _) (by omega)

/-- What the encoder knows between two code points. -/
structure Encoder where
  delta : Nat
  bias : Nat
  /-- The number of characters written. -/
  count : Nat
  first : Bool
  /-- The digits written, last first. -/
  output : List Char

/-- Writes the places of the code point `m`. -/
def Encoder.place (m : Nat) (e : Encoder) (c : Nat) : Encoder :=
  if c < m then { e with delta := e.delta + 1 }
  else if c = m then
    { delta := 0
      bias := adapt e.delta (e.count + 1) e.first
      count := e.count + 1
      first := false
      output := (digits e.bias 0 e.delta).reverse ++ e.output }
  else e

/-- Writes the places of some code points in increasing order, all at least `n`. -/
def Encoder.run (input : List Nat) (n : Nat) (e : Encoder) : List Nat → Encoder
  | [] => e
  | m :: rest =>
    let e := { e with delta := e.delta + (m - n) * (e.count + 1) }
    let e := input.foldl (Encoder.place m) e
    run input (m + 1) { e with delta := e.delta + 1 } rest

/-- The elements of a sorted list without repetitions. -/
def dedup : List Nat → List Nat
  | a :: b :: rest => if a = b then dedup (b :: rest) else a :: dedup (b :: rest)
  | l => l

/-- A text in ASCII. -/
def encode (cs : List Char) : List Char :=
  let basic := cs.filter fun c => c.toNat < 0x80
  let input := cs.map Char.toNat
  let others := dedup ((input.filter fun n => 0x80 ≤ n).mergeSort)
  let e := Encoder.run input 0x80 ⟨0, 72, basic.length, true, []⟩ others
  basic ++ (if basic = [] then [] else ['-']) ++ e.output.reverse

/-- What the decoder knows between two digits. -/
structure Decoder where
  /-- The code points read. -/
  output : List Nat
  n : Nat
  i : Nat
  bias : Nat
  /-- The value of `i` before the number that is being read. -/
  start : Nat
  weight : Nat
  k : Nat

/-- Reads one digit; fails on other characters and beyond the code points. -/
def Decoder.step (d : Decoder) (c : Char) : Option Decoder := do
  let digit ← digitValue? c
  let i := d.i + digit * d.weight
  let t := threshold d.k d.bias
  if 0x100000000 ≤ i then none
  else if digit < t then
    let count := d.output.length + 1
    let n := d.n + i / count
    let place := i % count
    if n.isValidChar then
      some
        { output := d.output.take place ++ n :: d.output.drop place
          n
          i := place + 1
          bias := adapt (i - d.start) count (d.start == 0)
          start := place + 1
          weight := 1
          k := 0 }
    else none
  else some { d with i, weight := d.weight * (36 - t), k := d.k + 1 }

/-- Splits a text at its last hyphen, which is dropped. -/
def splitLast (cs : List Char) : List Char × List Char :=
  match cs.reverse.span (· ≠ '-') with
  | (_, []) => ([], cs)
  | (after, _ :: before) => (before.reverse, after.reverse)

/-- The text that a text in ASCII stands for. -/
def decode? (cs : List Char) : Option (List Char) := do
  let (basic, rest) := splitLast cs
  let start : Decoder := ⟨basic.map Char.toNat, 0x80, 0, 72, 0, 1, 0⟩
  let d ← rest.foldlM Decoder.step start
  if d.k ≠ 0 then none
  return d.output.map Char.ofNat

end JsonSchema.Punycode
