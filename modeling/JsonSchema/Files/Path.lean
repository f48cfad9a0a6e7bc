import JsonSchema.Text.Split

/-!
# Paths

A path is a text of segments between slashes. It starts at the root if it starts with a slash, and
at the current directory otherwise; a first segment `.` says the latter openly. Empty segments and
other segments `.` mean nothing.
-/

namespace JsonSchema

/-- A path, split at its slashes. -/
structure Path where
  /-- The path starts with a slash. -/
  rooted : Bool
  /-- The path starts with the segment `.`. -/
  here : Bool
  /-- The segments after that. -/
  segments : List (List Char)
  deriving DecidableEq

namespace Path

/-- Splits a path at its slashes. -/
def parse : List Char → Path
  | '/' :: rest => ⟨true, false, Text.split '/' rest⟩
  | text =>
    match Text.split '/' text with
    | ['.'] :: rest => ⟨false, true, rest⟩
    | segments => ⟨false, false, segments⟩

/-- Whether a segment means nothing. -/
def isBlank (segment : List Char) : Bool :=
  segment = [] || segment = ['.']

/-- Segments up to the last one that means something. -/
def trimEnd (segments : List (List Char)) : List (List Char) :=
  (segments.reverse.dropWhile isBlank).reverse

/-- Segments without those at both ends that mean nothing. -/
def trim (segments : List (List Char)) : List (List Char) :=
  trimEnd (segments.dropWhile isBlank)

/-- A path as text. -/
def toChars (p : Path) : List Char :=
  if p.rooted then '/' :: Text.join '/' p.segments
  else if p.here then Text.join '/' (['.'] :: p.segments)
  else Text.join '/' p.segments

/-- The segments after those that `names` matches. -/
def after? : List (List Char) → List (List Char) → Option (List (List Char))
  | [], segments => some segments
  | _ :: _, [] => none
  | name :: names, segment :: segments =>
    if isBlank segment then after? (name :: names) segments
    else if name = segment then after? names segments
    else none

/-- The rest of a path below the directory `base`, if it starts with that. -/
def below? (path base : List Char) : Option (List Char) :=
  let p := parse path
  let b := parse base
  let names := b.segments.filter fun s => !isBlank s
  if !b.rooted && !b.here && names.isEmpty then
    some (toChars { p with segments := trimEnd p.segments })
  else if p.rooted = b.rooted ∧ p.here = b.here then
    (after? names p.segments).map fun rest => Text.join '/' (trim rest)
  else none

/-- The path to an entry of a directory. -/
def child (directory name : List Char) : List Char :=
  if directory = [] ∨ directory.getLast? = some '/' then directory ++ name
  else directory ++ '/' :: name

/-- What follows the last dot of a file name, unless the name starts with that dot. -/
def extension? (name : List Char) : Option (List Char) :=
  match (Text.split '.' name).reverse with
  | last :: before :: more =>
    if name ≠ "..".toList ∧ (before ≠ [] ∨ more ≠ []) then some last else none
  | _ => none

end Path

end JsonSchema
