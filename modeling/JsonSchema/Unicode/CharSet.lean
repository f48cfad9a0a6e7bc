import JsonSchema.Text.CharClass

/-!
# Sets of characters

A `CharSet` is a list of code point ranges in increasing order with gaps between them. It is read
from text such as `41-5A 5F`, and closed under union, intersection and complement, where the
complement leaves out the surrogates.
-/

namespace JsonSchema

/-- A set of code points as ranges with both ends included. -/
structure CharSet where
  ranges : Array (Nat × Nat)

namespace CharSet

instance : Inhabited CharSet := ⟨⟨#[]⟩⟩

/-- The empty set. -/
def empty : CharSet := ⟨#[]⟩

/-- Joins sorted ranges that overlap or touch. -/
def merge (acc : Array (Nat × Nat)) (r : Nat × Nat) : Array (Nat × Nat) :=
  match acc.back? with
  | some (lo, hi) => if r.1 ≤ hi + 1 then acc.pop.push (lo, max hi r.2) else acc.push r
  | none => acc.push r

/-- The set of some ranges in any order. -/
def ofRanges (ranges : List (Nat × Nat)) : CharSet :=
  ⟨(ranges.mergeSort fun a b => a.1 ≤ b.1).foldl merge #[]⟩

/-- The set of one range. -/
def range (lo hi : Nat) : CharSet :=
  if lo ≤ hi then ⟨#[(lo, hi)]⟩ else empty

/-- The set of one character. -/
def single (c : Char) : CharSet :=
  range c.toNat c.toNat

/-- The elements of both sets. -/
def union (a b : CharSet) : CharSet :=
  ofRanges (a.ranges.toList ++ b.ranges.toList)

/-- The gaps between sorted ranges, from `lo` to `hi`. -/
def gaps (lo hi : Nat) : List (Nat × Nat) → List (Nat × Nat)
  | [] => if lo ≤ hi then [(lo, hi)] else []
  | (a, b) :: rest =>
    if lo < a then (lo, a - 1) :: gaps (b + 1) hi rest else gaps (max lo (b + 1)) hi rest

/-- The code points that are not in a set, surrogates included. -/
def complement (s : CharSet) : CharSet :=
  ⟨(gaps 0 0x10FFFF s.ranges.toList).toArray⟩

/-- The elements common to both sets. -/
def inter (a b : CharSet) : CharSet :=
  (a.complement.union b.complement).complement

/-- The elements of `a` that are not in `b`. -/
def diff (a b : CharSet) : CharSet :=
  a.inter b.complement

/-- The elements of exactly one of two sets. -/
def symmDiff (a b : CharSet) : CharSet :=
  (a.diff b).union (b.diff a)

/-- Whether a set has no element. -/
def isEmpty (s : CharSet) : Bool :=
  s.ranges.isEmpty

/-- Looks for `n` among the ranges from index `lo` up to `hi`. -/
def search (ranges : Array (Nat × Nat)) (n : Nat) : Nat → Nat → Nat → Bool
  | 0, _, _ => false
  | fuel + 1, lo, hi =>
    if lo < hi then
      let mid := (lo + hi) / 2
      match ranges[mid]? with
      | none => false
      | some (a, b) =>
        if n < a then search ranges n fuel lo mid
        else if b < n then search ranges n fuel (mid + 1) hi
        else true
    else false

/-- Whether a code point is in a set. -/
def has (s : CharSet) (n : Nat) : Bool :=
  search s.ranges n (s.ranges.size + 1) 0 s.ranges.size

/-- Whether a character is in a set. -/
def contains (s : CharSet) (c : Char) : Bool :=
  s.has c.toNat

/-- The number that hexadecimal digits write. -/
def hexValue (cs : List Char) : Nat :=
  cs.foldl (fun n c => n * 16 + (CharClass.hexDigit? c).getD 0) 0

/-- A range as text: `41-5A`, or one code point. -/
def rangeOfText (word : List Char) : Nat × Nat :=
  match word.span (· ≠ '-') with
  | (lo, []) => (hexValue lo, hexValue lo)
  | (lo, _ :: hi) => (hexValue lo, hexValue hi)

/-- The words of a line, cut at blanks. -/
def wordsOfLine (line : String) : List (List Char) :=
  let (word, words) := line.toList.foldr
    (fun c (word, words) => if c = ' ' then ([], word :: words) else (c :: word, words))
    ([], [])
  (word :: words).filter (· ≠ [])

/-- The words of some lines. -/
def wordsOf (lines : List String) : List (List Char) :=
  lines.flatMap wordsOfLine

/-- The set that some lines of sorted ranges write. -/
def ofText (lines : List String) : CharSet :=
  ⟨((wordsOf lines).map rangeOfText).toArray⟩

end CharSet

end JsonSchema
