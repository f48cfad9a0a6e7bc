import JsonSchema.Fetch
import JsonSchema.ResolveError

/-!
# Loading JSON files

`Files.loadJson` reads the file at a path as a JSON text in UTF-8.
-/

namespace JsonSchema

/-- The text of the file at a path. -/
def Files.readText (files : Files) (path : List Char) : Except FetchError (List UInt8) :=
  match files.find? path with
  | none => .error (.fileNotFound path)
  | some (.directory _) => .error (.unreadable path .isDirectory)
  | some (.file content) =>
    if (Utf8.decode? content).isSome then .ok content else .error (.unreadable path .notText)

/-- The document that the file at a path holds. -/
def Files.loadJson (files : Files) (path : List Char) : Except ResolveError Json :=
  match files.readText path with
  | .error cause => .error (.fetch path cause)
  | .ok content => (Json.read content).mapError (.invalidJson path)

end JsonSchema
