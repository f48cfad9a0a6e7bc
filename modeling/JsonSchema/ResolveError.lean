import JsonSchema.Fetch.Error
import JsonSchema.Json.Reader
import JsonSchema.Vocabulary.Finding

/-!
# Errors of resolving references

A `ResolveError` says why a reference leads to no schema: it is no URI reference, its document
cannot be fetched, is no JSON text or no schema, or holds nothing at the place.
-/

namespace JsonSchema

/-- Why a reference leads to no schema. -/
inductive ResolveError
  | invalidReference (cause : InvalidReference)
  /-- The document is no schema; the findings are those of its check. -/
  | malformed (locator : List Char) (findings : List Finding)
  /-- The document holds nothing at the place. -/
  | dangling (reference : Reference)
  | fetch (locator : List Char) (cause : FetchError)
  | invalidJson (locator : List Char) (cause : Json.Fault)

namespace ResolveError

/-- An error of resolving in words. -/
def message : ResolveError → String
  | invalidReference cause => cause.message
  | malformed locator findings =>
    "schema at " ++ String.ofList locator ++ " has " ++
      Text.decimal (findings.countP Finding.isFatal) ++ " syntax error(s)"
  | dangling reference => "dangling reference: " ++ reference.text
  | fetch locator cause => "failed to load " ++ String.ofList locator ++ ": " ++ cause.message
  | invalidJson locator cause =>
    "invalid JSON at " ++ String.ofList locator ++ ": " ++ cause.message

/-- The exit code of a command that ends with an error: 3 if a document cannot be fetched and 2
otherwise. -/
def exitCode : ResolveError → Nat
  | fetch _ _ => 3
  | _ => 2

end ResolveError

end JsonSchema
