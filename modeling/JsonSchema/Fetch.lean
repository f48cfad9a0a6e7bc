import JsonSchema.Fetch.Error
import JsonSchema.Files

/-!
# Fetching documents

A `Fetcher` gives the bytes of a document by its locator. `Fetcher.memory` holds the documents
itself, `Fetcher.files` reads the files that `file:` URLs name, and `Fetcher.archives` reads entries
of archives: in `jar:file:/p.jar!/a.json` the part before the first `!` is the URL of the archive,
and the part after it names the entry.
-/

namespace JsonSchema

/-- Gives the bytes of documents by their locators. -/
structure Fetcher where
  fetch : Reference → Except FetchError (List UInt8)

/-- The path of the local file that a URL names. -/
def filePath (url : List Char) : Except FetchError (List UInt8) :=
  match Url.parse url with
  | .error cause => .error (.invalidLocator url (.badUrl cause))
  | .ok u =>
    if u.scheme ≠ Url.fileScheme then .error (.invalidLocator url .notFileUrl)
    else
      match u.toFilePath? with
      | some path => .ok path
      | none => .error (.invalidLocator url .notLocalPath)

/-- What stands at a path given as bytes; a path that is no text leads nowhere. -/
def Files.locate (files : Files) (path : List UInt8) : Except FetchError FileTree :=
  match (Utf8.decode? path).bind files.find? with
  | some tree => .ok tree
  | none => .error (.fileNotFound (Utf8.decodeLossy path))

namespace Fetcher

/-- The fetcher of some documents, given with their locators. -/
def memory (documents : List (List Char × List UInt8)) : Fetcher where
  fetch r :=
    match documents.lookup r.locator with
    | some content => .ok content
    | none => .error (.invalidLocator r.locator .unknown)

/-- The fetcher of local files. -/
def files (files : Files) : Fetcher where
  fetch r := do
    let path ← filePath r.locator
    match ← files.locate path with
    | .file content => return content
    | .directory _ => throw (.unreadable (Utf8.decodeLossy path) .isDirectory)

/-- The URL of an archive and the name of an entry of it, from a locator. -/
def splitArchive (r : Reference) : Except FetchError (List Char × List Char) :=
  match r.scheme.filter Reference.archiveSchemes.contains with
  | none => .error (.invalidLocator r.locator .notArchive)
  | some scheme =>
    match Text.cut? '!' (r.locator.drop (scheme.length + 1)) with
    | none => .error (.invalidLocator r.locator .noEntryName)
    | some (archive, entry) =>
      .ok (archive, Percent.decode (entry.dropWhile (· = '/')))

/-- The fetcher of entries of local archives. -/
def archives (files : Files) : Fetcher where
  fetch r := do
    let (archive, entry) ← splitArchive r
    match ← files.locate (← filePath archive) with
    | .directory _ => throw (.archive r.locator .unreadable)
    | .file content => (Archive.read content entry).mapError (.archive r.locator)

end Fetcher

/-- Whether a source is the URL of a web page. -/
def isWebUrl (source : List Char) : Bool :=
  "http://".toList.isPrefixOf source || "https://".toList.isPrefixOf source

/-- The reference to the document that a source names: a URL, or the path of a file. -/
def Files.reference (files : Files) (source : List Char) : Except FetchError Reference :=
  if isWebUrl source || "file:".toList.isPrefixOf source then
    (Reference.parse (String.ofList source)).mapError fun e =>
      .invalidLocator source (.badReference e)
  else
    match files.absolute? source with
    | none => .error (.fileNotFound source)
    | some names =>
      let url := (Url.ofFilePath (names.map String.toList)).toChars
      (Reference.parse (String.ofList url)).mapError fun e =>
        .invalidLocator url (.badReference e)

end JsonSchema
