import JsonSchema.Regex.Bracket

/-!
# Reading patterns

`Regex.parse?` turns the text of a pattern into a regular expression. The reader keeps a stack of
open groups and takes one item of the pattern at a time. Patterns with look-around or back
references have no regular expression, nor do those that nest too deeply or would grow too large.
-/

namespace JsonSchema.Regex

/-- An expression with the depth of its nesting; modes on their own cannot be repeated. -/
structure Piece where
  regex : Regex
  depth : Nat
  repeatable : Bool

/-- An open group. -/
structure Group where
  /-- The modes to return to after the group. -/
  modes : Modes
  /-- The branches before the one that is being read, last first. -/
  branches : List Piece
  /-- The items of the branch, last first. -/
  items : List Piece

/-- The reader between two items. -/
structure Reader where
  modes : Modes
  branches : List Piece
  items : List Piece
  outer : List Group
  /-- The names of groups so far. -/
  names : List (List Char)

/-- The reader at the start of a pattern. -/
def Reader.initial : Reader :=
  ⟨.initial, [], [], [], []⟩

/-- Items in a row, last first, as one piece. -/
def concat : List Piece → Piece
  | [] => ⟨.empty, 0, false⟩
  | [p] => p
  | items =>
    ⟨items.foldl (fun r p => .seq p.regex r) .empty,
      (items.map Piece.depth).foldl max 0 + 1, true⟩

/-- Branches, last first, as one piece. -/
def alternate : List Piece → Piece
  | [] => ⟨.empty, 0, false⟩
  | [p] => p
  | last :: more =>
    ⟨more.foldl (fun r p => .alt p.regex r) last.regex,
      ((last :: more).map Piece.depth).foldl max 0 + 1, true⟩

/-- What the innermost open group holds. -/
def Reader.content (r : Reader) : Piece :=
  alternate (concat r.items :: r.branches)

/-- The reader after one more item. -/
def Reader.push (r : Reader) (p : Piece) : Reader :=
  { r with items := p :: r.items }

/-- The reader in a new group. -/
def Reader.openGroup (r : Reader) (modes : Modes) : Reader :=
  { r with
    modes
    branches := []
    items := []
    outer := ⟨r.modes, r.branches, r.items⟩ :: r.outer }

/-- The reader after the end of its group. -/
def Reader.closeGroup? (r : Reader) : Option Reader :=
  match r.outer with
  | [] => none
  | g :: outer =>
    let inner := r.content
    some
      { r with
        modes := g.modes
        branches := g.branches
        items := ⟨inner.regex, inner.depth + 1, true⟩ :: g.items
        outer }

/-- The reader with its last item repeated. -/
def Reader.repeat? (r : Reader) (least : Nat) (most : Option Nat) : Option Reader :=
  match r.items with
  | [] => none
  | p :: items =>
    if p.repeatable then
      some { r with items := ⟨.rep p.regex least most, p.depth + 1, true⟩ :: items }
    else none

/-- A pattern after the `?` that makes a repetition reluctant. -/
def dropReluctance : List Char → List Char
  | '?' :: rest => rest
  | rest => rest

/-- A decimal below `2 ^ 32` between blanks, for a count; `none` inside if there are no digits. -/
def count (verbose : Bool) (rest : List Char) : Option (Option Nat × List Char) :=
  let rest := rest.dropWhile CharClass.isBlank
  let (digits, rest) := go rest rest.length
  let rest := skipBlanks verbose (rest.dropWhile CharClass.isBlank)
  match CharClass.decimal? digits with
  | none => some (none, rest)
  | some n => if n < 0x100000000 then some (some n, rest) else none
where
  go (rest : List Char) : Nat → List Char × List Char
    | 0 => ([], rest)
    | fuel + 1 =>
      match rest with
      | c :: more =>
        if CharClass.isAsciiDigit c then
          let (digits, more) := go (skipBlanks verbose more) fuel
          (c :: digits, more)
        else ([], rest)
      | [] => ([], [])

/-- Bounds in braces after the opening one: the least and greatest count. -/
def bounds (verbose : Bool) (rest : List Char) : Option (Nat × Option Nat × List Char) := do
  let (least, rest) ← count verbose (skipBlanks verbose rest)
  match rest with
  | ',' :: more =>
    match skipBlanks verbose more with
    | '\x7d' :: more => return (← least, none, more)
    | more =>
      let (most, more) ← count verbose more
      match least, most, more with
      | some l, some u, '\x7d' :: more => if l ≤ u then some (l, some u, more) else none
      | _, _, _ => none
  | '\x7d' :: more => return (← least, some (← least), more)
  | _ => none

/-- The modes after a flag letter is switched. -/
def Modes.set? (m : Modes) (letter : Char) (on : Bool) : Option Modes :=
  match letter with
  | 'i' => some { m with ignoreCase := on }
  | 'm' => some { m with multiLine := on }
  | 's' => some { m with dotAll := on }
  | 'x' => some { m with verbose := on }
  | 'u' => some { m with unicode := on }
  | 'R' => some { m with crlf := on }
  | 'U' => some m
  | _ => none

/-- Reads flags up to `:` or `)`: the modes after them, the flags read, and the rest. -/
def flags (m : Modes) (seen : List Char) (on : Bool) :
    List Char → Option (Modes × List Char × List Char)
  | [] => none
  | c :: rest =>
    if c = ':' ∨ c = ')' then
      if seen.head? = some '-' then none else some (m, seen, c :: rest)
    else if seen.contains c then none
    else if c = '-' then flags m (c :: seen) false rest
    else do
      let m ← m.set? c on
      flags m (c :: seen) on rest

/-- Whether a character may stand in the name of a group. -/
def isNameChar (first : Bool) (c : Char) : Bool :=
  let letter := (Unicode.property? "alphabetic").any (·.contains c)
  c = '_' || letter ||
    (!first && (c = '.' || c = '[' || c = ']' || (Unicode.category? "n").any (·.contains c)))

/-- The name of a group, up to `>`. -/
def groupName (rest : List Char) : Option (List Char × List Char) :=
  let name := rest.takeWhile (· ≠ '>')
  match name, rest.drop name.length with
  | c :: more, _ :: rest =>
    if isNameChar true c && more.all (isNameChar false) then some (c :: more, rest) else none
  | _, _ => none

/-- The reader after an opening parenthesis and what belongs to it. -/
def Reader.group (r : Reader) (rest : List Char) : Option (Reader × List Char) := do
  let named (rest : List Char) : Option (Reader × List Char) := do
    let (name, rest) ← groupName rest
    if r.names.contains name then none
    return ({ r.openGroup r.modes with names := name :: r.names }, rest)
  match skipBlanks r.modes.verbose rest with
  | '?' :: '=' :: _ | '?' :: '!' :: _ | '?' :: '<' :: '=' :: _ | '?' :: '<' :: '!' :: _ => none
  | '?' :: 'P' :: '<' :: rest => named rest
  | '?' :: '<' :: rest => named rest
  | '?' :: rest =>
    match ← flags r.modes [] true rest with
    | (m, seen, ')' :: rest) =>
      if seen = [] then none
      return ({ r with modes := m }.push ⟨.empty, 0, false⟩, rest)
    | (m, _, _ :: rest) => return (r.openGroup m, rest)
    | (_, _, []) => none
  | rest => return (r.openGroup r.modes, rest)

/-- The expression for one character. -/
def charRegex (m : Modes) (c : Char) : Regex :=
  .chars (if m.ignoreCase then foldCase m.unicode (.single c) else .single c)

/-- The expression for `.`. -/
def dotRegex? (m : Modes) : Option Regex :=
  if !m.unicode then none
  else if m.dotAll then some (.chars anyChar)
  else if m.crlf then some (.chars (complement (.ofRanges [(0x0A, 0x0A), (0x0D, 0x0D)])))
  else some (.chars (complement (.single '\n')))

/-- The condition for `^`. -/
def startLook (m : Modes) : Look :=
  if m.multiLine then (if m.crlf then .crlfLineStart else .lineStart) else .textStart

/-- The condition for `$`. -/
def endLook (m : Modes) : Look :=
  if m.multiLine then (if m.crlf then .crlfLineEnd else .lineEnd) else .textEnd

/-- The expression for an escape. -/
def atomRegex (m : Modes) : Atom → Regex
  | .char c => charRegex m c
  | .set s => .chars s
  | .look l => .look l

/-- The reader after one more item of a pattern. -/
def Reader.step (r : Reader) (c : Char) (rest : List Char) : Option (Reader × List Char) := do
  let m := r.modes
  let leaf (x : Regex) : Piece := ⟨x, 0, true⟩
  match c with
  | '(' => r.group rest
  | ')' => return (← r.closeGroup?, rest)
  | '|' => return ({ r with branches := concat r.items :: r.branches, items := [] }, rest)
  | '[' =>
    let (s, depth, rest) ← bracketClass m rest
    return (r.push ⟨.chars s, depth, true⟩, rest)
  | '?' => return (← r.repeat? 0 (some 1), dropReluctance rest)
  | '*' => return (← r.repeat? 0 none, dropReluctance rest)
  | '+' => return (← r.repeat? 1 none, dropReluctance rest)
  | '\x7b' =>
    let (least, most, rest) ← bounds m.verbose rest
    return (← r.repeat? least most, dropReluctance (skipBlanks m.verbose rest))
  | '\\' =>
    let (atom, rest) ← escape m rest
    return (r.push (leaf (atomRegex m atom)), rest)
  | '.' => return (r.push (leaf (← dotRegex? m)), rest)
  | '^' => return (r.push (leaf (.look (startLook m))), rest)
  | '$' => return (r.push (leaf (.look (endLook m))), rest)
  | _ => return (r.push (leaf (charRegex m c)), rest)

/-- Reads the rest of a pattern, in at most `fuel` items. -/
def Reader.run (r : Reader) (rest : List Char) : Nat → Option Reader
  | 0 => none
  | fuel + 1 =>
    match skipBlanks r.modes.verbose rest with
    | [] => some r
    | c :: more =>
      match r.step c more with
      | some (r, rest) => r.run rest fuel
      | none => none

/-- How deep the parts of a pattern may nest. -/
def nestLimit : Nat := 250

/-- The largest cost of a pattern. -/
def costLimit : Nat := 10 * 1024 * 1024

/-- The regular expression that a pattern writes, if there is one. -/
def parse? (pattern : List Char) : Option Regex := do
  let r ← Reader.initial.run pattern (pattern.length + 1)
  if r.outer.length ≠ 0 then none
  let p := r.content
  if nestLimit < p.depth || costLimit < p.regex.cost then none
  return p.regex

/-- Whether a text is a regular expression. -/
def isValid (pattern : String) : Bool :=
  (parse? pattern.toList).isSome

/-- Whether a pattern is a regular expression that matches a part of a text. -/
def finds (pattern text : String) : Bool :=
  ((parse? pattern.toList).map fun r => r.isMatch text.toList).getD false

end JsonSchema.Regex
