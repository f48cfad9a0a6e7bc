import JsonSchema.Text.Split

/-!
# Dot segments

`removeDotSegments` resolves the segments `.` and `..` of a path. A path that starts with `/` does
not climb above its root; other paths keep the `..` segments that they cannot resolve in front.
-/

namespace JsonSchema.Uri

/-- A segment of a path. -/
abbrev Segment := List Char

/-- The segments kept so far, the last one first, after one more. -/
def climb (absolute : Bool) (kept : List Segment) (segment : Segment) : List Segment :=
  if segment = ['.'] then kept
  else if segment = ['.', '.'] then
    match kept with
    | top :: below =>
      if top ≠ ['.', '.'] then below
      else if absolute then kept
      else segment :: kept
    | [] => if absolute then [] else [segment]
  else segment :: kept

/-- Whether a segment is `.` or `..`. -/
def isDotSegment (segment : Segment) : Bool :=
  segment = ['.'] || segment = ['.', '.']

/-- The segments of a path without the dot segments. A dot segment at the end leaves an empty
segment there. -/
def resolveSegments (absolute : Bool) (segments : List Segment) : List Segment :=
  let kept := segments.foldl (climb absolute) []
  (if segments.getLast?.any isDotSegment then [] :: kept else kept).reverse

/-- A path without its dot segments. -/
def removeDotSegments : List Char → List Char
  | [] => []
  | '/' :: body => '/' :: Text.join '/' (resolveSegments true (Text.split '/' body))
  | path => Text.join '/' (resolveSegments false (Text.split '/' path))

end JsonSchema.Uri
