import JsonSchema.Archive
import JsonSchema.Reference
import JsonSchema.Text.Message
import JsonSchema.Url

/-!
# Errors of fetching

A `FetchError` says why the bytes of a document cannot be had: no file is at the path, it cannot be
read, nobody is responsible for the scheme, the locator is of the wrong form, or the archive or its
entry is missing or damaged.
-/

namespace JsonSchema

/-- What is wrong with a locator for the one who should fetch it. -/
inductive LocatorFault
  /-- The locator has no scheme. -/
  | relative
  /-- The locator is no URL. -/
  | badUrl (cause : Url.Refusal)
  | notFileUrl
  | notLocalPath
  | notArchive
  /-- The locator of an archive has no `!`. -/
  | noEntryName
  /-- No document is known by the locator. -/
  | unknown
  /-- The text of the locator is no URI reference. -/
  | badReference (cause : InvalidReference)
  deriving DecidableEq

/-- Why a file cannot be read. -/
inductive ReadFault
  | isDirectory
  /-- The file is not in UTF-8. -/
  | notText
  deriving DecidableEq

/-- Why the bytes of a document cannot be had. -/
inductive FetchError
  | fileNotFound (path : List Char)
  | unreadable (path : List Char) (cause : ReadFault)
  /-- Nobody fetches documents with the scheme. -/
  | unsupportedScheme (scheme : List Char)
  | invalidLocator (locator : List Char) (cause : LocatorFault)
  | archive (locator : List Char) (cause : Archive.Fault)
  deriving DecidableEq

/-- A fault of a locator in words. -/
def LocatorFault.message : LocatorFault → String
  | relative => "relative locator has no document to fetch"
  | badUrl cause => cause.text
  | notFileUrl => "not a file URL"
  | notLocalPath => "not a local file path"
  | notArchive => "not an archive locator"
  | noEntryName => "missing '!' between archive and entry"
  | unknown => "no such document"
  | badReference cause => cause.message

/-- A fault of reading in words. -/
def ReadFault.message : ReadFault → String
  | isDirectory => "Is a directory (os error 21)"
  | notText => "stream did not contain valid UTF-8"

/-- An error of fetching in words. -/
def FetchError.message : FetchError → String
  | fileNotFound path => "file not found: " ++ String.ofList path
  | unreadable path cause => "cannot read " ++ String.ofList path ++ ": " ++ cause.message
  | unsupportedScheme scheme =>
    "no fetcher registered for scheme " ++ Text.quoted (String.ofList scheme)
  | invalidLocator locator cause =>
    "cannot fetch " ++ String.ofList locator ++ ": " ++ cause.message
  | archive locator cause =>
    "cannot read archive entry " ++ String.ofList locator ++ ": " ++ cause.message

end JsonSchema
