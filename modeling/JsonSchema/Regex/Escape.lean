import JsonSchema.Regex.Basic
import JsonSchema.Regex.ClassNames

/-!
# Escapes of patterns

An escape stands for a character, a class of characters or a condition on a place. The readers
here take the rest of a pattern and return what they read with the rest after it; they fail on
malformed escapes.
-/

namespace JsonSchema.Regex

/-- The modes of a pattern that flags switch. -/
structure Modes where
  /-- Letters match in either case. -/
  ignoreCase : Bool
  /-- `^` and `$` match at lines. -/
  multiLine : Bool
  /-- `.` matches line feeds. -/
  dotAll : Bool
  /-- Blanks and comments of the pattern do not count. -/
  verbose : Bool
  /-- Classes and boundaries are those of Unicode. -/
  unicode : Bool
  /-- A carriage return ends a line too. -/
  crlf : Bool

/-- The modes at the start of a pattern. -/
def Modes.initial : Modes :=
  ⟨false, false, false, false, true, false⟩

/-- What an escape stands for. -/
inductive Atom
  | char (c : Char)
  | set (s : CharSet)
  | look (l : Look)

/-- The rest of a pattern after blanks and comments that do not count. -/
def skipBlanks (verbose : Bool) (rest : List Char) : List Char :=
  if verbose then go rest rest.length else rest
where
  go (rest : List Char) : Nat → List Char
    | 0 => rest
    | fuel + 1 =>
      match rest with
      | '#' :: more => go ((more.dropWhile (· ≠ '\n')).drop 1) fuel
      | c :: more => if CharClass.isBlank c then go more fuel else rest
      | [] => []

/-- The character of a code point, unless it is a surrogate or too large. -/
def scalar? (n : Nat) : Option Char :=
  if n.isValidChar then some (Char.ofNat n) else none

/-- The number that hexadecimal digits write, if it is not too long. -/
def hex? (digits : List Char) : Option Nat :=
  digits.foldl (fun acc c => do
    let n ← acc
    let d ← CharClass.hexDigit? c
    if n < 0x100000000 then some (n * 16 + d) else none) (some 0)

/-- The digits before a closing brace. -/
def bracedDigits (verbose : Bool) (rest : List Char) : Nat → Option (List Char × List Char)
  | 0 => none
  | fuel + 1 =>
    match skipBlanks verbose rest with
    | [] => none
    | '\x7d' :: more => some ([], more)
    | c :: more =>
      if CharClass.isHexDigit c then
        (bracedDigits verbose more fuel).map fun (digits, more) => (c :: digits, more)
      else none

/-- Exactly `count` hexadecimal digits. -/
def plainDigits (verbose : Bool) : Nat → List Char → Option (List Char × List Char)
  | 0, rest => some ([], rest)
  | count + 1, rest =>
    match skipBlanks verbose rest with
    | [] => none
    | c :: more =>
      if CharClass.isHexDigit c then
        (plainDigits verbose count more).map fun (digits, more) => (c :: digits, more)
      else none

/-- A character by its number, after `x`, `u` or `U`. -/
def hexEscape (verbose : Bool) (count : Nat) (rest : List Char) : Option (Char × List Char) := do
  match skipBlanks verbose rest with
  | '\x7b' :: more =>
    let (digits, more) ← bracedDigits verbose more (more.length + 1)
    if digits = [] then none
    let c ← scalar? (← hex? digits)
    return (c, skipBlanks verbose more)
  | rest =>
    let (digits, more) ← plainDigits verbose count rest
    let c ← scalar? (← hex? digits)
    return (c, skipBlanks verbose more)

/-- Cuts a text at the first occurrence of one of some marks. -/
def cutAt? (marks : List (List Char)) : List Char → Option (List Char × List Char × List Char)
  | [] => none
  | c :: rest =>
    match marks.find? fun m => m.isPrefixOf (c :: rest) with
    | some m => some ([], m, (c :: rest).drop m.length)
    | none => (cutAt? marks rest).map fun (before, m, after) => (c :: before, m, after)

/-- The characters of a property in braces before their negation. -/
def propertyClass? (name : List Char) : Option (Bool × CharSet) :=
  match cutAt? [['!', '=']] name with
  | some (property, _, value) => (valueClass? property value).map fun s => (true, s)
  | none =>
    match cutAt? [[':']] name with
    | some (property, _, value) => (valueClass? property value).map fun s => (false, s)
    | none =>
      match cutAt? [['=']] name with
      | some (property, _, value) => (valueClass? property value).map fun s => (false, s)
      | none => (nameClass? name).map fun s => (false, s)

/-- The name of a property: a letter, or a text in braces. -/
def propertyName (verbose : Bool) (rest : List Char) : Option (List Char × List Char) :=
  match skipBlanks verbose rest with
  | '\x7b' :: more =>
    let name := more.takeWhile (· ≠ '\x7d')
    match more.drop name.length with
    | _ :: more => some (if verbose then name.filter (!CharClass.isBlank ·) else name, more)
    | [] => none
  | c :: more => if c = '\\' then none else some ([c], skipBlanks verbose more)
  | [] => none

/-- A property class. -/
def propertyEscape (m : Modes) (negated : Bool) (rest : List Char) :
    Option (Atom × List Char) := do
  if !m.unicode then none
  let (name, rest) ← propertyName m.verbose rest
  let (unequal, s) ← propertyClass? name
  let s := if m.ignoreCase then foldCase true s else s
  return (.set (if negated != unequal then complement s else s), rest)

/-- A class by its letter, in upper case for the complement. -/
def letterEscape (m : Modes) (letter : Char) (rest : List Char) :
    Option (Atom × List Char) := do
  let s ← letterClass? m.unicode letter.toLower
  if letter.isUpper then
    if !m.unicode then none
    return (.set (complement s), rest)
  return (.set s, rest)

/-- Characters that mean something in patterns and may be escaped. -/
def isMeta (c : Char) : Bool :=
  ['\\', '.', '+', '*', '?', '(', ')', '|', '[', ']', '\x7b', '\x7d', '^', '$', '#', '&', '-',
    '~'].contains c

/-- Whether an escape of a character stands for the character itself. -/
def isEscapable (c : Char) : Bool :=
  isMeta c || (c.toNat < 0x80 && !CharClass.isAsciiAlphanumeric c && c != '<' && c != '>')

/-- The name of a boundary in braces after `\b`; `some none` if the brace starts no name. -/
def boundaryName (verbose : Bool) (rest : List Char) :
    Option (Option (List Char) × List Char) :=
  let isNameChar (c : Char) : Bool := CharClass.isAsciiLetter c || c = '-'
  match rest with
  | '\x7b' :: more =>
    match skipBlanks verbose more with
    | [] => none
    | c :: _ =>
      if isNameChar c then
        let content := more.takeWhile (· ≠ '\x7d')
        let name := if verbose then content.filter (!CharClass.isBlank ·) else content
        match more.drop content.length with
        | _ :: after => if name.all isNameChar then some (some name, after) else none
        | [] => none
      else some (none, rest)
  | _ => some (none, rest)

/-- A boundary of words. -/
def boundaryEscape (m : Modes) (rest : List Char) : Option (Atom × List Char) := do
  match ← boundaryName m.verbose rest with
  | (none, rest) => return (.look (.boundary m.unicode), rest)
  | (some name, rest) =>
    match String.ofList name with
    | "start" => return (.look (.wordStart m.unicode), rest)
    | "end" => return (.look (.wordEnd m.unicode), rest)
    | "start-half" => return (.look (.halfStart m.unicode), rest)
    | "end-half" => return (.look (.halfEnd m.unicode), rest)
    | _ => none

/-- A character after `x`. Without Unicode two digits are a byte, which has to be ASCII. -/
def byteEscape (m : Modes) (rest : List Char) : Option (Atom × List Char) := do
  let (c, more) ← hexEscape m.verbose 2 rest
  if !m.unicode && 0x7F < c.toNat && rest.head? ≠ some '\x7b' then none
  return (.char c, more)

/-- What a backslash and the rest of a pattern after it stand for. -/
def escape (m : Modes) : List Char → Option (Atom × List Char)
  | [] => none
  | c :: rest =>
    match c with
    | 'x' => byteEscape m rest
    | 'u' => (hexEscape m.verbose 4 rest).map fun (c, rest) => (.char c, rest)
    | 'U' => (hexEscape m.verbose 8 rest).map fun (c, rest) => (.char c, rest)
    | 'p' => propertyEscape m false rest
    | 'P' => propertyEscape m true rest
    | 'd' | 's' | 'w' | 'D' | 'S' | 'W' => letterEscape m c rest
    | 'a' => some (.char '\x07', rest)
    | 'f' => some (.char '\x0c', rest)
    | 't' => some (.char '\t', rest)
    | 'n' => some (.char '\n', rest)
    | 'r' => some (.char '\r', rest)
    | 'v' => some (.char '\x0b', rest)
    | 'A' => some (.look .textStart, rest)
    | 'z' => some (.look .textEnd, rest)
    | 'b' => boundaryEscape m rest
    | 'B' => some (.look (.notBoundary m.unicode), rest)
    | '<' => some (.look (.wordStart m.unicode), rest)
    | '>' => some (.look (.wordEnd m.unicode), rest)
    | _ => if isEscapable c then some (.char c, rest) else none

end JsonSchema.Regex
