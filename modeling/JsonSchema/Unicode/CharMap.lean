import JsonSchema.Unicode.CharSet

/-!
# Maps between characters

A `CharMap` sends some code points to others by runs: a run maps equally spaced code points to
consecutive ones with the same spacing. It is read from text such as `41-5A:61 100-12E/2:101`.
-/

namespace JsonSchema

/-- Code points `first`, `first + step`, …, `last`, sent to `target`, `target + step`, …. -/
structure CharRun where
  first : Nat
  last : Nat
  step : Nat
  target : Nat

/-- A map from code points to code points. -/
structure CharMap where
  runs : Array CharRun

namespace CharMap

/-- The image of a code point under a run. -/
def image? (r : CharRun) (n : Nat) : Option Nat :=
  if r.first ≤ n ∧ n ≤ r.last ∧ (n - r.first) % r.step = 0 then some (r.target + (n - r.first))
  else none

/-- The image of a code point. -/
def get? (m : CharMap) (n : Nat) : Option Nat :=
  m.runs.findSome? fun r => image? r n

/-- All pairs of the map. -/
def pairs (m : CharMap) : List (Nat × Nat) :=
  m.runs.toList.flatMap fun r =>
    (List.range ((r.last - r.first) / r.step + 1)).map fun i =>
      (r.first + i * r.step, r.target + i * r.step)

/-- A run as text. -/
def runOfText (word : List Char) : CharRun :=
  let (domain, target) := word.span (· ≠ ':')
  let (range, step) := domain.span (· ≠ '/')
  let (lo, hi) := CharSet.rangeOfText range
  ⟨lo, hi, if step = [] then 1 else 2, CharSet.hexValue (target.drop 1)⟩

/-- The map that some lines of runs write. -/
def ofText (lines : List String) : CharMap :=
  ⟨((CharSet.wordsOf lines).map runOfText).toArray⟩

end CharMap

end JsonSchema
