import JsonSchema.Text.CharClass
import JsonSchema.Text.Utf8

/-!
# Percent escapes

`Percent.encode` writes the bytes of chosen characters as `%XX`; `Percent.decode` reads escapes
back as UTF-8, with U+FFFD for ill-formed stretches. A `%` that no two hexadecimal digits follow
stands for itself.
-/

namespace JsonSchema.Percent

/-- The upper-case hexadecimal digit of a number below 16. -/
def hexUpper (n : Nat) : Char :=
  if n < 10 then Char.ofNat ('0'.toNat + n) else Char.ofNat ('A'.toNat + (n - 10))

/-- The escape of one byte. -/
def escapeByte (b : UInt8) : List Char :=
  ['%', hexUpper (b.toNat / 16), hexUpper (b.toNat % 16)]

/-- The escape of one character: one `%XX` for each byte. -/
def escapeChar (c : Char) : List Char :=
  (String.utf8EncodeChar c).flatMap escapeByte

/-- Escapes the characters that `needsEscape` selects and every character beyond ASCII. -/
def encode (needsEscape : Char → Bool) (cs : List Char) : List Char :=
  cs.flatMap fun c => if needsEscape c || 0x80 ≤ c.toNat then escapeChar c else [c]

/-- The bytes that a text with escapes stands for. -/
def decodeBytes : List Char → List UInt8
  | [] => []
  | '%' :: h :: l :: rest =>
    match CharClass.hexDigit? h, CharClass.hexDigit? l with
    | some x, some y => UInt8.ofNat (x * 16 + y) :: decodeBytes rest
    | _, _ => String.utf8EncodeChar '%' ++ decodeBytes (h :: l :: rest)
  | c :: rest => String.utf8EncodeChar c ++ decodeBytes rest

/-- The text that a text with escapes stands for. -/
def decode (cs : List Char) : List Char :=
  Utf8.decodeLossy (decodeBytes cs)

end JsonSchema.Percent
