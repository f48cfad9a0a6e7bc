import JsonSchema.Json.Basic
import JsonSchema.Text.CharClass
import JsonSchema.Text.Utf8

/-!
# Tokens of JSON texts

`Token.scan` cuts the bytes of a text into tokens. A token knows the position just past its first
byte, which is where a complaint about the whole token is placed, and holds either its meaning or
the fault found inside it; nothing follows a token with a fault. Lines count from 1, columns count
bytes and are 0 just after a line feed.
-/

namespace JsonSchema.Json

/-- A place in a text, just past some byte. -/
structure Position where
  line : Nat
  column : Nat
  deriving DecidableEq

/-- The place before the first byte. -/
def Position.start : Position := ⟨1, 0⟩

/-- The place after one more byte. -/
def Position.next (p : Position) (b : UInt8) : Position :=
  if b = 0x0A then ⟨p.line + 1, 0⟩ else ⟨p.line, p.column + 1⟩

/-- The place after some more bytes. -/
def Position.advance (p : Position) (bytes : List UInt8) : Position :=
  bytes.foldl Position.next p

/-- Ways in which a text is not JSON. -/
inductive Flaw
  | endInValue | endInArray | endInObject | endInString
  | noValue | noLiteral | noItemSeparator | noMemberSeparator | noColon | noName
  | trailingComma | trailingCharacters
  | malformedNumber | numberOutOfRange
  | unknownEscape | unfinishedSurrogate | loneSurrogate | malformedUtf8 | controlCharacter
  | tooDeep
  deriving DecidableEq

/-- What is said about a flaw. -/
def Flaw.text : Flaw → String
  | .endInValue => "EOF while parsing a value"
  | .endInArray => "EOF while parsing a list"
  | .endInObject => "EOF while parsing an object"
  | .endInString => "EOF while parsing a string"
  | .noValue => "expected value"
  | .noLiteral => "expected ident"
  | .noItemSeparator => "expected `,` or `]`"
  | .noMemberSeparator => "expected `,` or `\x7d`"
  | .noColon => "expected `:`"
  | .noName => "key must be a string"
  | .trailingComma => "trailing comma"
  | .trailingCharacters => "trailing characters"
  | .malformedNumber => "invalid number"
  | .numberOutOfRange => "number out of range"
  | .unknownEscape => "invalid escape"
  | .unfinishedSurrogate => "unexpected end of hex escape"
  | .loneSurrogate => "lone leading surrogate in hex escape"
  | .malformedUtf8 => "invalid unicode code point"
  | .controlCharacter => "control character (\\u0000-\\u001F) found while parsing a string"
  | .tooDeep => "recursion limit exceeded"

/-- A flaw and the place where it shows. -/
structure Fault where
  flaw : Flaw
  place : Position
  deriving DecidableEq

/-- A fault as text. -/
def Fault.message (f : Fault) : String :=
  f.flaw.text ++ " at line " ++ toString f.place.line ++ " column " ++ toString f.place.column

/-- The meaning of a token. -/
inductive Lexeme
  /-- One of the six marks, or a byte that starts no token. -/
  | mark
  /-- A string, as a value or as a name. -/
  | str (text : String)
  /-- A number or a literal name. -/
  | scalar (value : Json)

/-- A piece of a text. -/
structure Token where
  /-- The place just past the first byte. -/
  place : Position
  /-- The first byte, read as a character. -/
  first : Char
  lexeme : Except Fault Lexeme

/-- A result with the number of bytes it takes, or a flaw with the number of bytes up to it. -/
abbrev Scan (α : Type) := Except (Flaw × Nat) (α × Nat)

namespace Scan

/-- A byte as a character below 256. -/
def byteChar (b : UInt8) : Char := Char.ofNat b.toNat

/-- Whether a byte is a decimal digit. -/
def isDigit (b : UInt8) : Bool := CharClass.isAsciiDigit (byteChar b)

/-- The number that a list of digits writes. -/
def value (digits : List UInt8) : Nat :=
  digits.foldl (fun n d => n * 10 + (d.toNat - '0'.toNat)) 0

/-- The rest of a literal name after its first byte. -/
def literal (expected : List Char) (v : Json) : List UInt8 → Nat → Scan Json
  | bytes, taken =>
    match expected, bytes with
    | [], _ => .ok (v, taken)
    | _ :: _, [] => .error (.endInValue, taken)
    | e :: more, b :: rest =>
      if byteChar b = e then literal more v rest (taken + 1) else .error (.noLiteral, taken + 1)

/-- The number for an integer that fits 64 bits; `-0` and all others are doubles. -/
def integer? (negative : Bool) (n : Nat) : Option Number :=
  if negative && n == 0 then some (.real (Double.zero true))
  else
    match Number.ofInt? (if negative then -(n : Int) else n) with
    | some number => some number
    | none => (Double.ofDecimal? negative n 0).map .real

/-- A double with its digits and exponent, as a scan that has taken `taken` bytes. -/
def real (negative : Bool) (digits : Nat) (exponent : Int) (taken : Nat) : Scan Json :=
  match Double.ofDecimal? negative digits exponent with
  | some d => .ok (.num (.real d), taken)
  | none => .error (.numberOutOfRange, taken)

/-- The largest exponent that is read digit by digit. -/
def exponentLimit : Nat := 0x7FFFFFFF

/-- The digits of an exponent: its value, or `none` if it passes the limit, and the number of
digits read up to there. -/
def exponentDigits : List UInt8 → Nat → Nat → Option Nat × Nat
  | [], acc, taken => (some acc, taken)
  | d :: rest, acc, taken =>
    let acc := acc * 10 + (d.toNat - '0'.toNat)
    if exponentLimit < acc then (none, taken + 1) else exponentDigits rest acc (taken + 1)

/-- The part of a number after `e`. -/
def exponent (negative : Bool) (digits : Nat) (scale : Int) (bytes : List UInt8) (taken : Nat) :
    Scan Json :=
  let (below, bytes, taken) :=
    match bytes with
    | b :: rest =>
      if byteChar b = '-' then (true, rest, taken + 1)
      else if byteChar b = '+' then (false, rest, taken + 1)
      else (false, b :: rest, taken)
    | [] => (false, [], taken)
  match bytes with
  | [] => .error (.endInValue, taken)
  | b :: _ =>
    if isDigit b then
      let written := bytes.takeWhile isDigit
      match exponentDigits written 0 0 with
      | (some e, count) =>
        real negative digits (scale + if below then -(e : Int) else e) (taken + count)
      | (none, count) =>
        if digits ≠ 0 ∧ ¬ below then .error (.numberOutOfRange, taken + count)
        else .ok (.num (.real (Double.zero negative)), taken + written.length)
    else .error (.malformedNumber, taken + 1)

/-- The part of a number after its integer digits. -/
def fraction (negative : Bool) (digits : List UInt8) (bytes : List UInt8) (taken : Nat) :
    Scan Json :=
  match bytes with
  | b :: rest =>
    if byteChar b = '.' then
      let places := rest.takeWhile isDigit
      let after := rest.dropWhile isDigit
      let taken := taken + 1 + places.length
      match places, after with
      | [], [] => .error (.endInValue, taken)
      | [], _ :: _ => .error (.malformedNumber, taken + 1)
      | _ :: _, after =>
        let all := value (digits ++ places)
        let scale := -(places.length : Int)
        match after with
        | c :: rest =>
          if byteChar c = 'e' ∨ byteChar c = 'E' then
            exponent negative all scale rest (taken + 1)
          else real negative all scale taken
        | [] => real negative all scale taken
    else if byteChar b = 'e' ∨ byteChar b = 'E' then
      exponent negative (value digits) 0 rest (taken + 1)
    else plain
  | [] => plain
where
  plain : Scan Json :=
    match integer? negative (value digits) with
    | some n => .ok (.num n, taken)
    | none => .error (.numberOutOfRange, taken)

/-- A number without its sign. -/
def number (negative : Bool) (bytes : List UInt8) (taken : Nat) : Scan Json :=
  match bytes with
  | [] => .error (.endInValue, taken)
  | b :: rest =>
    if byteChar b = '0' then
      match rest with
      | d :: _ =>
        if isDigit d then .error (.malformedNumber, taken + 2)
        else fraction negative [b] rest (taken + 1)
      | [] => fraction negative [b] rest (taken + 1)
    else if isDigit b then
      let digits := bytes.takeWhile isDigit
      fraction negative digits (bytes.dropWhile isDigit) (taken + digits.length)
    else .error (.malformedNumber, taken + 1)

/-- Four hexadecimal digits at the start of `bytes`. -/
def fourHex (bytes : List UInt8) (taken : Nat) : Except (Flaw × Nat) Nat :=
  match bytes with
  | a :: b :: c :: d :: _ =>
    match [a, b, c, d].mapM fun x => CharClass.hexDigit? (byteChar x) with
    | some digits => .ok (digits.foldl (fun n x => n * 16 + x) 0)
    | none => .error (.unknownEscape, taken + 4)
  | _ => .error (.endInString, taken + bytes.length)

/-- The escape after `\u`; a leading surrogate needs a trailing one after it. -/
def unicodeEscape (bytes : List UInt8) : Except (Flaw × Nat) (List UInt8 × Nat) := do
  let n ← fourHex bytes 1
  if n < 0xD800 ∨ 0xDFFF < n then
    return (String.utf8EncodeChar (Char.ofNat n), 5)
  if 0xDC00 ≤ n then
    throw (.loneSurrogate, 5)
  match bytes.drop 4 with
  | [] => throw (.endInString, 5)
  | b :: more =>
    if byteChar b ≠ '\\' then
      throw (.unfinishedSurrogate, 6)
    match more with
    | [] => throw (.endInString, 6)
    | u :: low =>
      if byteChar u ≠ 'u' then
        throw (.unfinishedSurrogate, 7)
      let m ← fourHex low 7
      if m < 0xDC00 ∨ 0xDFFF < m then
        throw (.loneSurrogate, 11)
      let c := 0x10000 + (n - 0xD800) * 0x400 + (m - 0xDC00)
      return (String.utf8EncodeChar (Char.ofNat c), 11)

/-- The bytes that an escape stands for, given what follows the backslash. -/
def escape (bytes : List UInt8) : Scan (List UInt8) :=
  match bytes with
  | [] => .error (.endInString, 0)
  | b :: rest =>
    match byteChar b with
    | '"' | '\\' | '/' => .ok ([b], 1)
    | 'b' => .ok ([0x08], 1)
    | 'f' => .ok ([0x0C], 1)
    | 'n' => .ok ([0x0A], 1)
    | 'r' => .ok ([0x0D], 1)
    | 't' => .ok ([0x09], 1)
    | 'u' => unicodeEscape rest
    | _ => .error (.unknownEscape, 1)

/-- A string after its opening quote; `reversed` holds the bytes read so far. -/
def string (bytes reversed : List UInt8) (taken : Nat) : Scan String :=
  match bytes with
  | [] => .error (.endInString, taken)
  | b :: rest =>
    if byteChar b = '"' then
      match Utf8.decode? reversed.reverse with
      | some cs => .ok (String.ofList cs, taken + 1)
      | none => .error (.malformedUtf8, taken + 1)
    else if byteChar b = '\\' then
      match escape rest with
      | .ok (out, count) =>
        string (rest.drop count) (out.reverse ++ reversed) (taken + 1 + count)
      | .error (flaw, count) => .error (flaw, taken + 1 + count)
    else if b < 0x20 then .error (.controlCharacter, taken + 1)
    else string rest (b :: reversed) (taken + 1)
  termination_by bytes.length
  decreasing_by all_goals simp; try omega

/-- The token that starts with `b`, counting the bytes of `rest` that belong to it. Ill-formed bytes
in a string are a flaw once the string has ended, at the first of them. -/
def lexeme (b : UInt8) (rest : List UInt8) : Scan Lexeme :=
  let scalar (s : Scan Json) : Scan Lexeme := s.map fun (v, taken) => (.scalar v, taken)
  match byteChar b with
  | 'n' => scalar (literal ['u', 'l', 'l'] .null rest 0)
  | 't' => scalar (literal ['r', 'u', 'e'] (.bool true) rest 0)
  | 'f' => scalar (literal ['a', 'l', 's', 'e'] (.bool false) rest 0)
  | '"' =>
    match string rest [] 0 with
    | .ok (s, taken) => .ok (.str s, taken)
    | .error (.malformedUtf8, _) => .error (.malformedUtf8, Utf8.soundLength rest + 1)
    | .error fault => .error fault
  | '-' => scalar (number true rest 0)
  | _ =>
    if isDigit b then
      -- The first digit is scanned again as part of the number.
      match number false (b :: rest) 0 with
      | .ok (v, taken) => .ok (.scalar v, taken - 1)
      | .error (flaw, taken) => .error (flaw, taken - 1)
    else .ok (.mark, 0)

end Scan

/-- Whether a byte may stand between tokens. -/
def isSpace (b : UInt8) : Bool :=
  b = 0x20 || b = 0x0A || b = 0x0D || b = 0x09

/-- The tokens of a text whose first byte is at `place`, up to the first fault. -/
def Token.scan (place : Position) : List UInt8 → List Token
  | [] => []
  | b :: rest =>
    let past := place.next b
    if isSpace b then Token.scan past rest
    else
      match Scan.lexeme b rest with
      | .ok (lexeme, taken) =>
        ⟨past, Scan.byteChar b, .ok lexeme⟩ ::
          Token.scan (past.advance (rest.take taken)) (rest.drop taken)
      | .error (flaw, taken) =>
        [⟨past, Scan.byteChar b, .error ⟨flaw, past.advance (rest.take taken)⟩⟩]
  termination_by bytes => bytes.length
  decreasing_by all_goals simp; try omega

end JsonSchema.Json
