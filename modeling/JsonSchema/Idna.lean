import JsonSchema.Idna.Label

/-!
# Host names in ASCII

`Idna.toAscii?` brings a host name to the form in which it is looked up: its characters are mapped
and composed, labels beyond ASCII are written in Punycode after `xn--`, and labels that already
are must decode to what would have been written. Names with a character that hosts may not hold, or
with letters of both directions in a label, have no such form.
-/

namespace JsonSchema.Idna

/-- Characters of ASCII that a host name may not hold, capital letters among them. -/
def isForbidden (c : Char) : Bool :=
  c.toNat ≤ 0x20 || c.toNat = 0x7F || ('A' ≤ c && c ≤ 'Z') ||
    ['%', '#', '/', ':', '<', '>', '?', '@', '[', '\\', ']', '^', '\x60', '\x7b', '|',
      '\x7d'].contains c

/-- A text with its characters mapped. -/
def mapped? : List Char → Option (List Char)
  | [] => some []
  | c :: rest => do
    let rest ← mapped? rest
    match HostChar.classify c with
    | .kept => some (c :: rest)
    | .dropped => some rest
    | .replaced text => some (text ++ rest)
    | .refused => none

/-- The labels of a host name. -/
def labels? (domain : List Char) : Option (List Label) := do
  let mapped ← mapped? domain
  (Text.split '.' (Unicode.compose mapped)).mapM Label.of?

/-- A host name in ASCII. -/
def toAscii? (domain : List Char) : Option (List Char) := do
  let labels ← labels? domain
  if labels.any Label.isReversed && !labels.all Label.keepsDirection then none
  let result := Text.join '.' (labels.map Label.ascii)
  if result.any isForbidden then none
  return result

end JsonSchema.Idna
