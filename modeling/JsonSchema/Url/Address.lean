import JsonSchema.Text.CharClass
import JsonSchema.Text.Split

/-!
# Numeric hosts

Hosts may be written as addresses. The lenient IPv4 form has one to four numbers in decimal, octal
(leading `0`) or hexadecimal (leading `0x`), of which the last fills all remaining bytes; the IPv6
form has eight groups of up to four hexadecimal digits, with `::` for a run of zeros and
possibly an IPv4 address as the last two. Both are written back in one way only.
-/

namespace JsonSchema.Url

/-- A digit in some base. -/
def digitIn? (base : Nat) (c : Char) : Option Nat :=
  (CharClass.hexDigit? c).filter (· < base)

/-- A number in some base; no digits write 0. -/
def numberIn? (base : Nat) (cs : List Char) : Option Nat :=
  cs.foldl (fun acc c => return (← acc) * base + (← digitIn? base c)) (some 0)

/-- One number of a lenient IPv4 address. -/
def ipv4Number? : List Char → Option Nat
  | [] => none
  | '0' :: 'x' :: rest | '0' :: 'X' :: rest => numberIn? 16 rest
  | '0' :: c :: rest => numberIn? 8 (c :: rest)
  | cs => numberIn? 10 cs

/-- The parts of a dotted text, without an empty last one. -/
def dottedParts (cs : List Char) : List (List Char) :=
  let parts := Text.split '.' cs
  if parts.getLast? = some [] then parts.dropLast else parts

/-- Whether the last part of a dotted text is a number, so that it can only be an address. -/
def endsInNumber (cs : List Char) : Bool :=
  match (dottedParts cs).getLast? with
  | none => false
  | some last =>
    (last ≠ [] && last.all CharClass.isAsciiDigit) || (ipv4Number? last).isSome

/-- A lenient IPv4 address as a number. -/
def ipv4? (cs : List Char) : Option Nat := do
  let parts := dottedParts cs
  if 4 < parts.length then none
  let numbers ← parts.mapM ipv4Number?
  let last ← numbers.getLast?
  let leading := numbers.dropLast
  if leading.any (255 < ·) || Nat.pow 256 (4 - leading.length) ≤ last then none
  return leading.foldr (fun n acc => n * 0x1000000 + acc / 256) 0 + last

/-- An IPv4 address as text. -/
def ipv4Text (n : Nat) : List Char :=
  Text.join '.' ([n / 0x1000000, n / 0x10000, n / 256, n].map fun b => Nat.toDigits 10 (b % 256))

/-- The groups of an IPv6 address before it is complete. -/
structure Groups where
  /-- The groups read, last first. -/
  reversed : List Nat
  /-- The number of groups before `::`. -/
  gap : Option Nat

/-- Four decimal numbers of an address, none with a leading zero. -/
def ipv4Groups? (cs : List Char) : Option (List Nat) := do
  let parts := Text.split '.' cs
  if parts.length ≠ 4 then none
  let bytes ← parts.mapM fun p => do
    if p.length > 1 ∧ p.head? = some '0' then none
    let n ← CharClass.decimal? p
    if n ≤ 255 then some n else none
  match bytes with
  | [a, b, c, d] => return [a * 256 + b, c * 256 + d]
  | _ => none

/-- Eight groups from the ones read, with zeros in the gap. -/
def Groups.complete? (g : Groups) : Option (List Nat) :=
  let read := g.reversed.reverse
  match g.gap with
  | none => if read.length = 8 then some read else none
  | some n =>
    if read.length < 8 then
      some (read.take n ++ List.replicate (8 - read.length) 0 ++ read.drop n)
    else none

/-- Reads groups from a place where one may start. -/
def ipv6Groups? (g : Groups) (cs : List Char) : Option (List Nat) :=
  match cs with
  | [] => g.complete?
  | ':' :: rest =>
    if g.gap.isSome ∨ 8 ≤ g.reversed.length then none
    else ipv6Groups? { g with gap := some g.reversed.length } rest
  | c :: rest =>
    if 8 ≤ g.reversed.length then none
    else
      let digits := ((c :: rest).take 4).takeWhile CharClass.isHexDigit
      match _hd : (c :: rest).drop digits.length with
      | '.' :: _ =>
        if digits = [] ∨ 6 < g.reversed.length then none
        else do
          let low ← ipv4Groups? (c :: rest)
          Groups.complete? { g with reversed := low.reverse ++ g.reversed }
      | [] => do
        let n ← numberIn? 16 digits
        Groups.complete? { g with reversed := n :: g.reversed }
      | [':'] => none
      | ':' :: next :: more =>
        if digits = [] then none
        else do
          let n ← numberIn? 16 digits
          ipv6Groups? { g with reversed := n :: g.reversed } (next :: more)
      | _ => none
  termination_by cs.length
  decreasing_by
    · simp
    · have h := congrArg List.length _hd
      simp only [List.length_drop, List.length_cons] at h ⊢
      omega

/-- An IPv6 address as eight groups. -/
def ipv6? (cs : List Char) : Option (List Nat) :=
  match cs with
  | ':' :: ':' :: rest => ipv6Groups? ⟨[], some 0⟩ rest
  | ':' :: _ => none
  | [] => none
  | _ => ipv6Groups? ⟨[], none⟩ cs

/-- The length of the run of zeros that a list starts with. -/
def zeroRun (groups : List Nat) : Nat :=
  (groups.takeWhile (· = 0)).length

/-- The first longest run of zeros, as its place and length. -/
def longestZeroRun (place : Nat) : List Nat → Nat × Nat
  | [] => (place, 0)
  | g :: rest =>
    let here := zeroRun (g :: rest)
    let later := longestZeroRun (place + 1) rest
    if later.2 ≤ here then (place, here) else later

/-- Groups in hexadecimal with colons between them. -/
def groupsText (groups : List Nat) : List Char :=
  Text.join ':' (groups.map (Nat.toDigits 16))

/-- An IPv6 address as text: the first longest run of two or more zeros becomes `::`. -/
def ipv6Text (groups : List Nat) : List Char :=
  let (place, length) := longestZeroRun 0 groups
  if length < 2 then groupsText groups
  else groupsText (groups.take place) ++ [':', ':'] ++ groupsText (groups.drop (place + length))

end JsonSchema.Url
