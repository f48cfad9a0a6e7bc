import JsonSchema.Text.CharClass
import JsonSchema.Text.Split

/-!
# URI references

A `Uri` holds the five parts of a URI reference as written, escapes included. `Uri.parse` reads a
text and `Uri.toChars` writes it back; only the scheme changes, to lower case. A missing fragment
and an empty one are different references.
-/

namespace JsonSchema

/-- A URI reference. -/
structure Uri where
  scheme : Option (List Char)
  authority : Option (List Char)
  path : List Char
  query : Option (List Char)
  fragment : Option (List Char)
  deriving DecidableEq

namespace Uri

/-- The empty reference. -/
def empty : Uri :=
  ⟨none, none, [], none, none⟩

instance : Inhabited Uri := ⟨empty⟩

/-- Ways in which a text is not a URI reference. Places are counted in bytes. -/
inductive ParseError
  | illegalCharacter (c : Char) (place : Nat)
  | malformedEscape (place : Nat)
  | malformedScheme (scheme : List Char)
  deriving DecidableEq

/-- A forbidden character in single quotes, with an escape for what cannot be shown. -/
def quoteChar (c : Char) : List Char :=
  let shown : List Char :=
    if c = '\x00' then ['\\', '0']
    else if c = '\t' then ['\\', 't']
    else if c = '\r' then ['\\', 'r']
    else if c = '\n' then ['\\', 'n']
    else if c = '\'' ∨ c = '\\' then ['\\', c]
    else if CharClass.isControl c || (CharClass.isBlank c && c != ' ') then
      "\\u\x7b".toList ++ Nat.toDigits 16 c.toNat ++ ['\x7d']
    else [c]
  '\'' :: shown ++ ['\'']

/-- What is said about a text that is no URI reference. -/
def ParseError.message : ParseError → String
  | .illegalCharacter c place =>
    "illegal character " ++ String.ofList (quoteChar c) ++ " at index " ++ toString place
  | .malformedEscape place => "malformed percent escape at index " ++ toString place
  | .malformedScheme scheme => "malformed scheme name \"" ++ String.ofList scheme ++ "\""

/-- Characters that may stand nowhere in a URI reference. -/
def isForbidden (c : Char) : Bool :=
  CharClass.isControl c || CharClass.isBlank c ||
    ['"', '<', '>', '\\', '^', '\x60', '\x7b', '|', '\x7d'].contains c

/-- Whether a text starts with two hexadecimal digits. -/
def startsWithTwoHex : List Char → Bool
  | a :: b :: _ => CharClass.isHexDigit a && CharClass.isHexDigit b
  | _ => false

/-- Looks for the first forbidden character or broken escape of a text at byte `place`. -/
def checkCharacters (place : Nat) : List Char → Except ParseError Unit
  | [] => .ok ()
  | c :: rest =>
    if isForbidden c then .error (.illegalCharacter c place)
    else if c = '%' ∧ startsWithTwoHex rest = false then .error (.malformedEscape place)
    else checkCharacters (place + c.utf8Size) rest

/-- The place of the first character of a class in a text at byte `place`. -/
def findIllegal (illegal : Char → Bool) (place : Nat) : List Char → Except ParseError Unit
  | [] => .ok ()
  | c :: rest =>
    if illegal c then .error (.illegalCharacter c place)
    else findIllegal illegal (place + c.utf8Size) rest

/-- Whether a text is a scheme name. -/
def isSchemeName : List Char → Bool
  | [] => false
  | c :: rest =>
    CharClass.isAsciiLetter c &&
      rest.all fun d => CharClass.isAsciiAlphanumeric d || d = '+' || d = '-' || d = '.'

/-- Splits a text without fragment into scheme and rest. A colon after the first `/` or `?`
belongs to the rest. -/
def splitScheme (text : List Char) :
    Except ParseError (Option (List Char) × List Char) :=
  match Text.cut? ':' text with
  | none => .ok (none, text)
  | some (before, after) =>
    if before.any fun c => c = '/' || c = '?' then .ok (none, text)
    else if isSchemeName before then .ok (some (before.map CharClass.toAsciiLower), after)
    else .error (.malformedScheme before)

/-- Splits a text at the first `c`, which is dropped. -/
def splitOptional (c : Char) (text : List Char) : List Char × Option (List Char) :=
  match Text.cut? c text with
  | none => (text, none)
  | some (before, after) => (before, some after)

/-- Splits a text without query into authority and path. -/
def splitAuthority : List Char → Option (List Char) × List Char
  | '/' :: '/' :: after => (some (after.takeWhile (· ≠ '/')), after.dropWhile (· ≠ '/'))
  | path => (none, path)

/-- Reads a URI reference. A bracket in the path of a reference without authority is placed
relative to the path. -/
def parse (text : List Char) : Except ParseError Uri := do
  checkCharacters 0 text
  let (main, fragment) := splitOptional '#' text
  findIllegal (· = '#') (Text.byteLength main + 1) (fragment.getD [])
  let (scheme, main) ← splitScheme main
  let (main, query) := splitOptional '?' main
  let (authority, path) := splitAuthority main
  if authority.isNone then
    findIllegal (fun c => c = '[' || c = ']') 0 path
  return ⟨scheme, authority, path, query, fragment⟩

/-- A part of a reference with the text before it, if the part is there. -/
def part (before : List Char) : Option (List Char) → List Char
  | none => []
  | some text => before ++ text

/-- A URI reference as text. -/
def toChars (u : Uri) : List Char :=
  (match u.scheme with
    | none => []
    | some s => s ++ [':']) ++
  part ['/', '/'] u.authority ++ u.path ++ part ['?'] u.query ++ part ['#'] u.fragment

/-- Whether a reference has a scheme and its path neither follows an authority nor starts with
`/`. Such a reference has no hierarchy to resolve in. -/
def isOpaque (u : Uri) : Bool :=
  u.scheme.isSome && u.authority.isNone && u.path.head? != some '/'

/-- The reference with another fragment. -/
def withFragment (u : Uri) (fragment : Option (List Char)) : Uri :=
  { u with fragment }

end Uri

end JsonSchema
