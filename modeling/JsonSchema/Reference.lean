import JsonSchema.Fragment
import JsonSchema.Text.Percent
import JsonSchema.Uri.Resolve

/-!
# Schema references

A `Reference` is a normalized URI reference. Its locator, the text without fragment, names a
document; its decoded fragment addresses a value in it. Two references are the same if their texts
agree once a missing fragment is read as an empty one. References of archives resolve within
the archive: `jar:file:/p.jar!/a/b.json` is a base for paths below `/`.
-/

namespace JsonSchema

/-- A reference to a schema. -/
structure Reference where
  uri : Uri
  deriving DecidableEq

/-- A text that is no URI reference, and why. -/
structure InvalidReference where
  input : String
  cause : Uri.ParseError
  deriving DecidableEq

namespace Reference

/-- The schemes of archives, whose locators hold a second locator before `!`. -/
def archiveSchemes : List (List Char) :=
  ["jar".toList, "archive".toList]

/-- The reference to the root of the nameless document. -/
def empty : Reference :=
  ⟨.empty⟩

instance : Inhabited Reference := ⟨empty⟩

/-- The reference that a parsed URI reference writes. -/
def ofUri (u : Uri) : Reference :=
  let normal := u.normalize
  if normal.toChars = [] ∨ normal.toChars = ['#'] then empty else ⟨normal⟩

/-- Reads a reference. -/
def parse (text : String) : Except InvalidReference Reference :=
  match Uri.parse text.toList with
  | .ok u => .ok (ofUri u)
  | .error cause => .error ⟨text, cause⟩

/-- The reference that a value of a schema stands for; values other than strings stand for the
empty one. -/
def ofJson : Json → Except InvalidReference Reference
  | .str s => parse s
  | _ => .ok empty

/-- The raw fragment; a missing one counts as empty. -/
def rawFragment (r : Reference) : List Char :=
  r.uri.fragment.getD []

/-- The text that identifies a reference. -/
def canonical (r : Reference) : List Char :=
  (r.uri.withFragment (some r.rawFragment)).toChars

/-- The text that identifies the document. -/
def locator (r : Reference) : List Char :=
  (r.uri.withFragment none).toChars

/-- What the reference addresses in its document. -/
def fragment (r : Reference) : Fragment :=
  .ofText (Percent.decode r.rawFragment)

/-- The scheme, if there is one. -/
def scheme (r : Reference) : Option (List Char) :=
  r.uri.scheme

/-- A reference as text; the empty one is `#`. -/
def toChars (r : Reference) : List Char :=
  if r.uri = .empty then ['#'] else r.uri.toChars

/-- A reference as text. -/
def text (r : Reference) : String :=
  String.ofList r.toChars

/-- Whether two references are the same. -/
def same (a b : Reference) : Bool :=
  a.canonical = b.canonical

/-- Whether a reference has a scheme and addresses a whole document. -/
def isAbsolute (r : Reference) : Bool :=
  r.scheme.isSome && r.fragment.isEmpty

/-- Whether a reference is the empty one. -/
def isEmpty (r : Reference) : Bool :=
  r.canonical = ['#']

/-- The reference to the whole document. -/
def toLocator (r : Reference) : Reference :=
  ofUri (r.uri.withFragment none)

/-- Characters that a fragment escapes. -/
def escapedInFragment (c : Char) : Bool :=
  CharClass.isControl c ||
    [' ', '"', '#', '%', '<', '>', '[', '\\', ']', '^', '\x60', '\x7b', '|', '\x7d'].contains c

/-- A decoded fragment as it is written. -/
def encodeFragment (text : List Char) : List Char :=
  Percent.encode escapedInFragment text

/-- The reference to a place in the same document. -/
def withPointer (r : Reference) (pointer : List Char) : Reference :=
  ofUri (r.uri.withFragment (some (encodeFragment pointer)))

/-- Whether two references address the same document. -/
def contains (a b : Reference) : Bool :=
  a.locator = b.locator

/-- Resolves a reference within an archive, by the path of the entry after the first `!`. -/
def resolveInArchive? (base other : Reference) : Option Uri := do
  if !base.scheme.any archiveSchemes.contains then none
  let (archive, entry) ← Text.cut? '!' base.locator
  let entry ← (Uri.parse entry).toOption
  let target := entry.resolve other.uri
  (Uri.parse (archive ++ '!' :: target.toChars)).toOption

/-- Resolves a reference against another one. One with a scheme stays as it is. -/
def resolve (base other : Reference) : Reference :=
  if other.scheme.isSome then other
  else ofUri ((resolveInArchive? base other).getD (base.uri.resolve other.uri))

end Reference

namespace InvalidReference

/-- The message about an invalid reference. -/
def message (e : InvalidReference) : String :=
  "invalid reference \"" ++ e.input ++ "\": " ++ e.cause.message

end InvalidReference

end JsonSchema
