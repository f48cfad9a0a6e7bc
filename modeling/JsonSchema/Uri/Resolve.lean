import JsonSchema.Uri.Basic
import JsonSchema.Uri.DotSegments
import JsonSchema.Url

/-!
# Normal form and resolution of URI references

`Uri.normalize` brings a reference to its normal form: that of `Url` for a hierarchical absolute
reference, the path without dot segments for a relative one, and the reference itself for an opaque
one. `Uri.resolve` resolves a reference against a base. A base that is opaque, or that is no URL in
spite of its scheme, anchors nothing, and the reference stays as it is but for normalization.
-/

namespace JsonSchema.Uri

/-- The URL that a reference with a scheme writes. -/
def toUrl? (u : Uri) : Option Url :=
  (Url.parse u.toChars).toOption

/-- A URL as a reference. -/
def ofUrl? (u : Url) : Option Uri :=
  (parse u.toChars).toOption

/-- The normal form of a reference. -/
def normalize (u : Uri) : Uri :=
  if u.isOpaque then u
  else
    let relative := { u with path := removeDotSegments u.path }
    if u.scheme.isSome then (u.toUrl?.bind ofUrl?).getD relative else relative

/-- A relative path in place of what follows the last `/` of a base path. -/
def merge (base : Uri) (relative : List Char) : List Char :=
  if base.authority.isSome ∧ base.path = [] then '/' :: relative
  else (base.path.reverse.dropWhile (· ≠ '/')).reverse ++ relative

/-- Resolves a reference without scheme against a base without scheme. -/
def mergeRelative (base reference : Uri) : Uri :=
  if reference.authority.isSome then
    { scheme := base.scheme
      authority := reference.authority
      path := removeDotSegments reference.path
      query := reference.query
      fragment := reference.fragment }
  else if reference.path = [] then
    { scheme := base.scheme
      authority := base.authority
      path := base.path
      query := reference.query.or base.query
      fragment := reference.fragment }
  else
    { scheme := base.scheme
      authority := base.authority
      path :=
        if reference.path.head? = some '/' then removeDotSegments reference.path
        else removeDotSegments (merge base reference.path)
      query := reference.query
      fragment := reference.fragment }

/-- Resolves a reference against a base. -/
def resolve (base reference : Uri) : Uri :=
  if reference.scheme.isSome || base.isOpaque then reference.normalize
  else if base.scheme.isSome then
    let joined := base.toUrl?.bind fun url =>
      ((url.join reference.toChars).toOption).bind ofUrl?
    joined.getD reference.normalize
  else mergeRelative base reference

end JsonSchema.Uri
