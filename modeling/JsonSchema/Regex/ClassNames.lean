import JsonSchema.Unicode.CaseFold
import JsonSchema.Unicode.Property
import JsonSchema.Unicode.Script

/-!
# Named classes of patterns

Patterns name classes of characters by a letter (`\d`), by an ASCII name (`[:alpha:]`), or by a
property (`\p{Greek}`, `\p{gc=Lu}`). Property names are compared without case, blanks, hyphens and
underscores, and without a leading `is`.
-/

namespace JsonSchema.Regex

/-- All characters. -/
def anyChar : CharSet := ⟨#[(0, 0xD7FF), (0xE000, 0x10FFFF)]⟩

/-- The characters of ASCII. -/
def asciiChar : CharSet := .range 0 0x7F

/-- The characters that are not in a set. -/
def complement (s : CharSet) : CharSet :=
  anyChar.diff s

/-- A class of ASCII by its name. -/
def asciiClass? (name : List Char) : Option CharSet :=
  let sets : List (String × List (Nat × Nat)) := [
    ("alnum", [(0x30, 0x39), (0x41, 0x5A), (0x61, 0x7A)]),
    ("alpha", [(0x41, 0x5A), (0x61, 0x7A)]),
    ("ascii", [(0, 0x7F)]),
    ("blank", [(0x09, 0x09), (0x20, 0x20)]),
    ("cntrl", [(0, 0x1F), (0x7F, 0x7F)]),
    ("digit", [(0x30, 0x39)]),
    ("graph", [(0x21, 0x7E)]),
    ("lower", [(0x61, 0x7A)]),
    ("print", [(0x20, 0x7E)]),
    ("punct", [(0x21, 0x2F), (0x3A, 0x40), (0x5B, 0x60), (0x7B, 0x7E)]),
    ("space", [(0x09, 0x0D), (0x20, 0x20)]),
    ("upper", [(0x41, 0x5A)]),
    ("word", [(0x30, 0x39), (0x41, 0x5A), (0x5F, 0x5F), (0x61, 0x7A)]),
    ("xdigit", [(0x30, 0x39), (0x41, 0x46), (0x61, 0x66)])]
  (sets.find? fun s => s.1 = String.ofList name).map fun s => .ofRanges s.2

/-- The class of a letter: digits, blanks or characters of words. -/
def letterClass? (unicode : Bool) (letter : Char) : Option CharSet :=
  match letter with
  | 'd' => if unicode then some Unicode.decimalDigit else asciiClass? "digit".toList
  | 's' => if unicode then some Unicode.whiteSpace else asciiClass? "space".toList
  | 'w' => if unicode then some Unicode.wordChar else asciiClass? "word".toList
  | _ => none

/-- A property name without what does not count in it. -/
def normalizeName (name : List Char) : String :=
  let lower := name.map CharClass.toAsciiLower
  let hasIs := lower.take 2 = ['i', 's']
  let kept := (if hasIs then lower.drop 2 else lower).filter fun c =>
    c ≠ ' ' && c ≠ '_' && c ≠ '-' && c.toNat < 0x80
  if hasIs && kept = ['c'] then "isc" else String.ofList kept

/-- A general category, or one of the sets that are named beside them. -/
def categoryClass? (name : String) : Option CharSet :=
  if name = "any" then some anyChar
  else if name = "assigned" then some (complement Unicode.unassigned)
  else if name = "ascii" then some asciiChar
  else Unicode.category? name

/-- The class of a single property name. -/
def nameClass? (name : List Char) : Option CharSet :=
  let name := normalizeName name
  let property := if ["cf", "sc", "lc"].contains name then none else Unicode.property? name
  property.or ((categoryClass? name).or (Unicode.script? name))

/-- The class of a property with a value. -/
def valueClass? (property value : List Char) : Option CharSet :=
  let value := normalizeName value
  let property := normalizeName property
  if ["gc", "generalcategory"].contains property then categoryClass? value
  else if ["sc", "script", "scx", "scriptextensions"].contains property then
    Unicode.script? value
  else none

/-- A set with all case variants of its elements. -/
def foldCase (unicode : Bool) (s : CharSet) : CharSet :=
  if unicode then Unicode.caseClosure s
  else
    let shift (lo hi : Nat) (up : Bool) : List (Nat × Nat) :=
      ((s.inter (.range lo hi)).ranges.toList).map fun (a, b) =>
        if up then (a + 32, b + 32) else (a - 32, b - 32)
    .ofRanges (s.ranges.toList ++ shift 0x41 0x5A true ++ shift 0x61 0x7A false)

end JsonSchema.Regex
