import JsonSchema.Unicode.Property

/-!
# Regular expressions

A `Regex` is an expression over sets of characters with look-around of width zero. It is matched
on sets of places: `Regex.ends` sends the set of places where a match may start to the set of
places where it may end. A set of places is a natural number whose bit `i` stands for the place
before character `i`, so a character set advances all places at once by one shift.
-/

namespace JsonSchema

/-- Conditions on a place between two characters. -/
inductive Regex.Look
  | textStart | textEnd | lineStart | lineEnd | crlfLineStart | crlfLineEnd
  | boundary (unicode : Bool) | notBoundary (unicode : Bool)
  | wordStart (unicode : Bool) | wordEnd (unicode : Bool)
  | halfStart (unicode : Bool) | halfEnd (unicode : Bool)

/-- A regular expression. -/
inductive Regex
  | empty
  | chars (set : CharSet)
  | look (condition : Regex.Look)
  | seq (first second : Regex)
  | alt (left right : Regex)
  /-- From `least` to `most` repetitions; no bound above if `most` is missing. -/
  | rep (body : Regex) (least : Nat) (most : Option Nat)

namespace Regex

/-- Whether a character belongs to a word. -/
def isWord (unicode : Bool) (c : Char) : Bool :=
  if unicode then Unicode.wordChar.contains c
  else CharClass.isAsciiAlphanumeric c || c = '_'

/-- Whether a condition holds between two characters; a missing one is the end of the text. -/
def Look.holds (l : Look) (before after : Option Char) : Bool :=
  let word (unicode : Bool) (c : Option Char) : Bool := c.any (isWord unicode)
  match l with
  | .textStart => before.isNone
  | .textEnd => after.isNone
  | .lineStart => before.isNone || before = some '\n'
  | .lineEnd => after.isNone || after = some '\n'
  | .crlfLineStart =>
    before.isNone || before = some '\n' || (before = some '\r' && after ≠ some '\n')
  | .crlfLineEnd =>
    after.isNone || after = some '\r' || (after = some '\n' && before ≠ some '\r')
  | .boundary u => word u before != word u after
  | .notBoundary u => word u before == word u after
  | .wordStart u => !word u before && word u after
  | .wordEnd u => word u before && !word u after
  | .halfStart u => !word u before
  | .halfEnd u => !word u after

/-- A set of places in a text. -/
abbrev Places := Nat

/-- The places at which a test holds, the first of which is place 0. -/
def places (tests : List Bool) : Places :=
  tests.foldr (fun b n => 2 * n + b.toNat) 0

/-- The places before a character of a set. -/
def charPlaces (set : CharSet) (text : List Char) : Places :=
  places (text.map set.contains)

/-- The results of a condition at the places of a text whose first character follows `before`. -/
def lookTests (l : Look) (before : Option Char) : List Char → List Bool
  | [] => [l.holds before none]
  | c :: rest => l.holds before (some c) :: lookTests l (some c) rest

/-- A regular expression with its sets and conditions replaced by the places of one text. -/
inductive Bound
  | empty
  | step (allowed : Places)
  | stay (allowed : Places)
  | seq (first second : Bound)
  | alt (left right : Bound)
  | rep (body : Bound) (least : Nat) (most : Option Nat)

/-- Binds a regular expression to a text. -/
def bind (text : List Char) : Regex → Bound
  | .empty => .empty
  | .chars set => .step (charPlaces set text)
  | .look l => .stay (places (lookTests l none text))
  | .seq a b => .seq (bind text a) (bind text b)
  | .alt a b => .alt (bind text a) (bind text b)
  | .rep a least most => .rep (bind text a) least most

/-- Applies `f` `n` times, as long as there are places left and it changes them. -/
def iterate (f : Places → Places) : Nat → Places → Places
  | 0, p => p
  | n + 1, p =>
    let q := f p
    if q = p then p else if q = 0 then 0 else iterate f n q

/-- The places reached by at most `n` applications of `f`. -/
def reach (f : Places → Places) : Nat → Places → Places
  | 0, p => p
  | n + 1, p =>
    let q := p ||| f p
    if q = p then p else reach f n q

/-- The places where a match may end if it starts at one of some places, in a text of `length`
characters. -/
def Bound.ends (length : Nat) : Bound → Places → Places
  | .empty, p => p
  | .step allowed, p => (p &&& allowed) <<< 1
  | .stay allowed, p => p &&& allowed
  | .seq a b, p => b.ends length (a.ends length p)
  | .alt a b, p => a.ends length p ||| b.ends length p
  | .rep a least most, p =>
    let start := iterate (a.ends length) least p
    reach (a.ends length) ((most.map (· - least)).getD (length + 1)) start

/-- Whether a regular expression matches a part of a text. -/
def isMatch (r : Regex) (text : List Char) : Bool :=
  (r.bind text).ends text.length (Nat.pow 2 (text.length + 1) - 1) ≠ 0

/-- The work of a regular expression once repetitions are written out. -/
def cost : Regex → Nat
  | .empty => 1
  | .chars set =>
    match set.ranges.toList with
    | [(_, hi)] => if hi < 0x80 then 32 else 300
    | ranges => 32 + 28 * ranges.length
  | .look _ => 32
  | .seq a b => a.cost + b.cost
  | .alt a b => a.cost + b.cost + 32
  | .rep a least most => a.cost * max 1 (most.getD least) + 32

end Regex

end JsonSchema
