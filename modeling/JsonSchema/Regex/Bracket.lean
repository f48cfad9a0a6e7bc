import JsonSchema.Regex.Escape

/-!
# Bracketed classes of patterns

A class in brackets is a union of characters, ranges, escapes and nested classes. Unions may be
combined by `&&`, `--` and `~~`, from left to right, and a `^` in front takes the complement.
-/

namespace JsonSchema.Regex

/-- Ways to combine two sets. -/
inductive SetOp
  | intersection | difference | symmetricDifference

/-- The combination of two sets. -/
def SetOp.apply (op : SetOp) (a b : CharSet) : CharSet :=
  match op with
  | .intersection => a.inter b
  | .difference => a.diff b
  | .symmetricDifference => a.symmDiff b

/-- A class that is being read. -/
structure OpenClass where
  negated : Bool
  /-- The left side of an operator whose right side is being read. -/
  left : Option (CharSet × SetOp)
  /-- The ranges read since then. -/
  union : List (Nat × Nat)

/-- The class with more elements. -/
def OpenClass.add (k : OpenClass) (s : CharSet) : OpenClass :=
  { k with union := s.ranges.toList ++ k.union }

/-- The set read so far. -/
def OpenClass.value (m : Modes) (k : OpenClass) : CharSet :=
  let right := CharSet.ofRanges k.union
  match k.left with
  | none => right
  | some (left, op) =>
    if m.ignoreCase then op.apply (foldCase m.unicode left) (foldCase m.unicode right)
    else op.apply left right

/-- The class with what was read as the left side of an operator. -/
def OpenClass.operate (m : Modes) (k : OpenClass) (op : SetOp) : OpenClass :=
  { k with left := some (k.value m, op), union := [] }

/-- A set with the case variants that a mode asks for, then perhaps its complement. Without
Unicode a complement would hold bytes that are no characters. -/
def foldAndNegate (m : Modes) (negated : Bool) (s : CharSet) : Option CharSet :=
  let s := if m.ignoreCase then foldCase m.unicode s else s
  if negated then
    if m.unicode then some (complement s) else none
  else some s

/-- The start of a class after its bracket: a `^`, then hyphens, or a closing bracket that stands
for itself. -/
def openClass (m : Modes) (rest : List Char) : Option (OpenClass × List Char) :=
  let rest := skipBlanks m.verbose rest
  let (negated, rest) :=
    match rest with
    | '^' :: more => (true, skipBlanks m.verbose more)
    | _ => (false, rest)
  let (hyphens, rest) := dropHyphens rest rest.length
  match rest with
  | [] => none
  | ']' :: more =>
    if hyphens then some (⟨negated, none, [(0x2D, 0x2D)]⟩, rest)
    else
      match skipBlanks m.verbose more with
      | [] => none
      | more => some (⟨negated, none, [(0x5D, 0x5D)]⟩, more)
  | _ => some (⟨negated, none, if hyphens then [(0x2D, 0x2D)] else []⟩, rest)
where
  dropHyphens (rest : List Char) : Nat → Bool × List Char
    | 0 => (false, rest)
    | fuel + 1 =>
      match rest with
      | '-' :: more => (true, (dropHyphens (skipBlanks m.verbose more) fuel).2)
      | _ => (false, rest)

/-- A class of ASCII such as `[:alpha:]`, after its bracket. -/
def asciiBracket? (m : Modes) (rest : List Char) : Option (CharSet × List Char) := do
  match rest with
  | ':' :: rest =>
    let (negated, rest) :=
      match rest with
      | '^' :: more => (true, more)
      | _ => (false, rest)
    let name := rest.takeWhile (· ≠ ':')
    match rest.drop name.length with
    | ':' :: ']' :: more =>
      let s ← asciiClass? name
      return (← foldAndNegate m negated s, more)
    | _ => none
  | _ => none

/-- One item of a class that is no bracket. -/
def classAtom (m : Modes) : List Char → Option (Atom × List Char)
  | '\\' :: rest => escape m rest
  | c :: rest => some (.char c, rest)
  | [] => none

/-- The elements of an item; conditions are none. -/
def Atom.elements? : Atom → Option CharSet
  | .char c => some (.single c)
  | .set s => some s
  | .look _ => none

/-- A character, an escape or a range of characters. -/
def classItem (m : Modes) (rest : List Char) : Option (CharSet × List Char) := do
  let (first, rest) ← classAtom m rest
  match skipBlanks m.verbose rest with
  | [] => none
  | '-' :: more =>
    match skipBlanks m.verbose more with
    | ']' :: _ | '-' :: _ => return (← first.elements?, skipBlanks m.verbose rest)
    | [] => none
    | more =>
      let (last, rest) ← classAtom m more
      match first, last with
      | .char a, .char b => if a ≤ b then some (.range a.toNat b.toNat, rest) else none
      | _, _ => none
  | rest => return (← first.elements?, rest)

/-- Reads the rest of an open class; the number beside the set counts how deep classes nest. -/
def classRest (m : Modes) (k : OpenClass) (rest : List Char) :
    Nat → Option (CharSet × Nat × List Char)
  | 0 => none
  | fuel + 1 => do
    match skipBlanks m.verbose rest with
    | [] => none
    | ']' :: more => return (← foldAndNegate m k.negated (k.value m), 1, more)
    | '[' :: more =>
      match asciiBracket? m more with
      | some (s, more) => classRest m (k.add s) more fuel
      | none =>
        let (inner, more) ← openClass m more
        let (s, depth, more) ← classRest m inner more fuel
        let (s, outer, more) ← classRest m (k.add s) more fuel
        return (s, max (depth + 1) outer, more)
    | '&' :: '&' :: more => classRest m (k.operate m .intersection) more fuel
    | '-' :: '-' :: more => classRest m (k.operate m .difference) more fuel
    | '~' :: '~' :: more => classRest m (k.operate m .symmetricDifference) more fuel
    | rest =>
      let (s, more) ← classItem m rest
      if !m.unicode && s.ranges.any (fun r => 0x7F < r.2) then none
      classRest m (k.add s) more fuel

/-- A class after its opening bracket. -/
def bracketClass (m : Modes) (rest : List Char) : Option (CharSet × Nat × List Char) := do
  let (k, rest) ← openClass m rest
  classRest m k rest (rest.length + 1)

end JsonSchema.Regex
