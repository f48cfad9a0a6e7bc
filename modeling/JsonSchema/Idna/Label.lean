import JsonSchema.Idna.Mapping
import JsonSchema.Idna.Punycode
import JsonSchema.Unicode.Composed
import JsonSchema.Unicode.Direction
import JsonSchema.Unicode.Joining

/-!
# Labels of host names

A label is a part of a host name between dots. It has a form for people and a form in ASCII, which
is the same or the Punycode after `xn--`. A label beyond ASCII may hold only characters that mapping
keeps, does not start with a mark, and holds joiners only where they mean something. Where letters
run from right to left, every label has to keep to one direction.
-/

namespace JsonSchema.Idna

/-- A label of a host name. -/
structure Label where
  /-- The form for people. -/
  shown : List Char
  ascii : List Char

/-- The mark in front of an encoded label. -/
def acePrefix : List Char := ['x', 'n', '-', '-']

/-- Whether every character is within ASCII. -/
def isAscii (cs : List Char) : Bool :=
  cs.all fun c => c.toNat < 0x80

/-- Whether a character may stand in a decoded label. -/
def isKept (c : Char) : Bool :=
  match HostChar.classify c with
  | .kept => true
  | _ => false

/-- Whether a text starts with a letter of a set, after what joining passes over. -/
def meets (letters : CharSet) (cs : List Char) : Bool :=
  (cs.dropWhile Unicode.transparent.contains).head?.any letters.contains

/-- Whether a joiner means something between two texts, the first one in reverse: after a virama,
or, if it keeps letters apart, between letters that would join. -/
def joinerFits (apart : Bool) (before after : List Char) : Bool :=
  before.head?.any (fun c => Unicode.markClass c.toNat = 9) ||
    (apart && meets Unicode.joinsNext before && meets Unicode.joinsPrevious after)

/-- Whether the joiners of a text fit, which follows `before`, in reverse. -/
def joinersFit (before : List Char) : List Char → Bool
  | [] => true
  | c :: rest =>
    (c != '\u200C' || joinerFits true before rest) &&
      (c != '\u200D' || joinerFits false before rest) && joinersFit (c :: before) rest

/-- Whether a label may be encoded. -/
def isValidLabel (label : List Char) : Bool :=
  label.all isKept && !label.head?.any Unicode.mark.contains && joinersFit [] label

/-- The label that a mapped text writes. -/
def Label.of? (text : List Char) : Option Label :=
  if text.take 4 = acePrefix then do
    let shown ← Punycode.decode? (text.drop 4)
    if !isAscii text || isAscii shown || !isValidLabel shown || Unicode.compose shown ≠ shown then
      none
    return ⟨shown, text⟩
  else if isAscii text then some ⟨text, text⟩
  else if isValidLabel text then some ⟨text, acePrefix ++ Punycode.encode text⟩
  else none

/-- Whether letters or digits of a label run from right to left. -/
def Label.isReversed (l : Label) : Bool :=
  l.shown.any fun c => [.rightToLeft, .arabicNumber].contains (Unicode.Direction.of c)

/-- Whether characters of some directions, the first of which starts a label, keep to it: the last
one but for marks is a letter of that direction or a digit, and digits are of one kind. -/
def keepDirection (directions : List Unicode.Direction) : Bool :=
  let body := (directions.reverse.dropWhile (· = .mark)).reverse
  let lastIs (allowed : List Unicode.Direction) := body.getLast?.any allowed.contains
  match body with
  | [] => true
  | .leftToRight :: rest =>
    rest.all [.leftToRight, .europeanNumber, .neutral, .mark].contains &&
      lastIs [.leftToRight, .europeanNumber]
  | .rightToLeft :: rest =>
    !rest.contains .leftToRight && lastIs [.rightToLeft, .arabicNumber, .europeanNumber] &&
      !(rest.contains .arabicNumber && rest.contains .europeanNumber)
  | _ => false

/-- Whether a label keeps to one direction. -/
def Label.keepsDirection (l : Label) : Bool :=
  keepDirection (l.shown.map Unicode.Direction.of)

end JsonSchema.Idna
