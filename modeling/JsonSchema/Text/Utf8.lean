/-!
# UTF-8 bytes as text

Text leaves and enters the library as bytes. `Utf8.encode` writes characters, `Utf8.decodeLossy`
reads any bytes, with U+FFFD for every ill-formed stretch, and `Utf8.decode?` reads well-formed
bytes only. An ill-formed stretch is the longest start of a well-formed sequence that the bytes
agree with, or a single byte if there is none.
-/

namespace JsonSchema.Utf8

/-- The bytes of a text. -/
def encode (cs : List Char) : List UInt8 :=
  cs.flatMap String.utf8EncodeChar

/-- What a lead byte above 0x7F calls for: how many bytes follow, and the bounds of the first of
them. The others lie between 0x80 and 0xBF. -/
def lead? (b : UInt8) : Option (Nat × UInt8 × UInt8) :=
  if b < 0xC2 then none
  else if b < 0xE0 then some (1, 0x80, 0xBF)
  else if b = 0xE0 then some (2, 0xA0, 0xBF)
  else if b = 0xED then some (2, 0x80, 0x9F)
  else if b < 0xF0 then some (2, 0x80, 0xBF)
  else if b = 0xF0 then some (3, 0x90, 0xBF)
  else if b < 0xF4 then some (3, 0x80, 0xBF)
  else if b = 0xF4 then some (3, 0x80, 0x8F)
  else none

/-- The following bytes of a sequence that `bytes` starts with, at most `count` of them. -/
def takeTails : Nat → UInt8 → UInt8 → List UInt8 → List UInt8
  | count + 1, low, high, b :: rest =>
    if low ≤ b ∧ b ≤ high then b :: takeTails count 0x80 0xBF rest else []
  | _, _, _, _ => []

/-- The payload of a lead byte followed by `count` others. -/
def leadBits (b : UInt8) (count : Nat) : Nat :=
  b.toNat % Nat.pow 2 (6 - count)

/-- The first character of `b :: rest`, or `none` for an ill-formed stretch, and the number of
bytes of `rest` that belong to it. -/
def unit (b : UInt8) (rest : List UInt8) : Option Char × Nat :=
  if b < 0x80 then (some (Char.ofNat b.toNat), 0)
  else
    match lead? b with
    | none => (none, 0)
    | some (count, low, high) =>
      let tails := takeTails count low high rest
      if tails.length = count then
        (some (Char.ofNat (tails.foldl (fun n t => n * 64 + t.toNat % 64) (leadBits b count))),
          count)
      else (none, tails.length)

/-- The characters and ill-formed stretches of a byte sequence, in order. -/
def units : List UInt8 → List (Option Char)
  | [] => []
  | b :: rest =>
    let (c, skip) := unit b rest
    c :: units (rest.drop skip)
  termination_by bytes => bytes.length
  decreasing_by
    rw [List.length_drop, List.length_cons]
    omega

/-- Reads any bytes; every ill-formed stretch becomes U+FFFD. -/
def decodeLossy (bytes : List UInt8) : List Char :=
  (units bytes).map (·.getD '\uFFFD')

/-- Reads well-formed bytes only. -/
def decode? (bytes : List UInt8) : Option (List Char) :=
  (units bytes).mapM id

/-- The number of bytes before the first ill-formed stretch. -/
def soundLength (bytes : List UInt8) : Nat :=
  (((units bytes).takeWhile Option.isSome).map fun c => (c.map Char.utf8Size).getD 0).foldr
    (· + ·) 0

end JsonSchema.Utf8
