import JsonSchema.Text.CharClass
import JsonSchema.Text.Split

/-!
# Addresses and names of hosts

Written IPv4 and IPv6 addresses, host names and mail addresses.
-/

namespace JsonSchema.Network

/-- A number below 256 in decimal without leading zeros, and the text after it. -/
def octet? (text : List Char) : Option (List Char) :=
  let ds := text.takeWhile CharClass.isAsciiDigit
  if ds.length ≤ 3 ∧ (ds.head? ≠ some '0' ∨ ds.length = 1) then
    match CharClass.decimal? ds with
    | some n => if n < 256 then some (text.drop ds.length) else none
    | none => none
  else none

/-- The text after `n` octets, with dots between them. -/
def octets? : Nat → List Char → Option (List Char)
  | 0, text => some text
  | 1, text => octet? text
  | n + 1, text =>
    match octet? text with
    | some ('.' :: rest) => octets? n rest
    | _ => none

/-- Whether a text is an IPv4 address. -/
def isIpv4 (text : List Char) : Bool :=
  octets? 4 text == some []

/-- The text after a group of one to four hexadecimal digits. -/
def group? (text : List Char) : Option (List Char) :=
  let ds := text.takeWhile CharClass.isHexDigit
  if 1 ≤ ds.length ∧ ds.length ≤ 4 then some (text.drop ds.length) else none

/-- At most `room` groups with colons between them, the last two of which may be written as an IPv4
address: how many there are, whether an IPv4 address is among them, and the text after them. -/
def groups : Nat → Bool → List Char → Nat × Bool × List Char
  | 0, _, text => (0, false, text)
  | room + 1, first, text =>
    let start : Option (List Char) :=
      if first then some text
      else
        match text with
        | ':' :: rest => some rest
        | _ => none
    match if 1 ≤ room then start.bind (octets? 4) else none with
    | some rest => (2, true, rest)
    | none =>
      match start.bind group? with
      | some rest =>
        let (n, dotted, rest) := groups room false rest
        (n + 1, dotted, rest)
      | none => (0, false, text)

/-- Whether a text is an IPv6 address: eight groups, or fewer with `::` in place of the others. -/
def isIpv6 (text : List Char) : Bool :=
  match groups 8 true text with
  | (8, _, rest) => rest = []
  | (_, true, _) => false
  | (n, false, ':' :: ':' :: rest) =>
    let (_, _, rest) := groups (7 - n) true rest
    rest = []
  | _ => false

/-- Whether a text is a part of a host name: at most 63 letters, digits and hyphens, without a
hyphen at either end. -/
def isLabel (text : List Char) : Bool :=
  text ≠ [] && Text.byteLength text ≤ 63 && text.head? != some '-' &&
    text.getLast? != some '-' &&
    text.all fun c => CharClass.isAsciiAlphanumeric c || c = '-'

/-- Whether a text is a host name: at most 255 bytes, labels with dots between them. -/
def isHostName (text : List Char) : Bool :=
  text ≠ [] && Text.byteLength text ≤ 255 && (Text.split '.' text).all isLabel

/-- Whether a text looks like a mail address: a name and a domain around one `@`, no blanks. -/
def isMailAddress (text : List Char) : Bool :=
  match Text.cut? '@' text with
  | some (name, domain) =>
    name ≠ [] && domain ≠ [] && !domain.contains '@' && !text.any CharClass.isBlank
  | none => false

end JsonSchema.Network
