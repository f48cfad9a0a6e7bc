import JsonSchema.Fetch
import JsonSchema.ResolveError
import JsonSchema.SchemaNode
import JsonSchema.Vocabulary.Basic

/-!
# Registries of schema documents

A registry keeps schema documents by their locators. A document is fetched and checked when it is
first looked up, and the outcome, good or bad, is kept. A document whose root has an `id` is kept
under the locator that this names, too: registering overwrites what is there, and fetching does not.

* `Registry.document` gives the document of a locator.
* `Registry.getSchema` gives the node that a reference addresses.
* `Registry.register` and `Registry.registerRoot` add documents.
* `Registry.find` gives a node seen from another one.
-/

namespace JsonSchema

/-- The outcome of loading a document. -/
abbrev Registry.Outcome := Except ResolveError Json

/-- Schema documents, the means to fetch more, and what was fetched. -/
structure Registry where
  fetchers : List (List Char × Fetcher)
  vocabulary : Vocabulary
  /-- The outcomes by the texts of their locators. -/
  cache : List (List Char × Registry.Outcome) := []
  /-- The locators that fetchers were asked for, in order. -/
  requests : List Reference := []

namespace Registry

/-- The outcome kept for a locator. -/
def cached? (g : Registry) (locator : Reference) : Option Outcome :=
  g.cache.lookup locator.locator

/-- Keeps an outcome for a locator, in place of what is there. -/
def put (g : Registry) (locator : Reference) (outcome : Outcome) : Registry :=
  { g with
    cache := (locator.locator, outcome) :: g.cache.filter fun e => e.1 != locator.locator }

/-- Keeps an outcome for a locator unless there is one. -/
def putNew (g : Registry) (locator : Reference) (outcome : Outcome) : Registry :=
  if (g.cached? locator).isSome then g else g.put locator outcome

/-- The document itself if it is a schema. -/
def checked (g : Registry) (locator : Reference) (document : Json) : Outcome :=
  if g.vocabulary.accepts document then .ok document
  else .error (.malformed locator.toChars (g.vocabulary.findings document))

/-- The document that the fetched bytes of a locator stand for. -/
def readDocument (g : Registry) (locator : Reference) (bytes : List UInt8) : Outcome := do
  let document ← (Json.read bytes).mapError (.invalidJson locator.toChars)
  g.checked locator document

/-- Loads the document of a locator, and says whether a fetcher was asked. -/
def load (g : Registry) (locator : Reference) : Outcome × Bool :=
  match locator.scheme with
  | none => (.error (.fetch locator.toChars (.invalidLocator locator.toChars .relative)), false)
  | some scheme =>
    match g.fetchers.lookup scheme with
    | none => (.error (.fetch locator.toChars (.unsupportedScheme scheme)), false)
    | some fetcher =>
      match fetcher.fetch locator with
      | .error cause => (.error (.fetch locator.toChars cause), true)
      | .ok bytes => (g.readDocument locator bytes, true)

/-- Keeps a document under the locator that its `id` names, too, unless something is there. -/
def putAlias (g : Registry) (locator : Reference) : Outcome → Registry
  | .ok document =>
    match locator.secondLocator? document with
    | some other => g.putNew other (.ok document)
    | none => g
  | .error _ => g

/-- The document of a locator, loaded if nothing is kept for it. -/
def document (g : Registry) (locator : Reference) : Outcome × Registry :=
  match g.cached? locator with
  | some outcome => (outcome, g)
  | none =>
    let (outcome, asked) := g.load locator
    let g := { g with requests := g.requests ++ if asked then [locator] else [] }
    (outcome, (g.put locator outcome).putAlias locator outcome)

/-- The node that a reference addresses in its document. -/
def nodeOf (r : Reference) (document : Json) : Except ResolveError SchemaNode :=
  match r.fragment.locate? document with
  | some pointer => .ok (.of r.toLocator document pointer)
  | none => .error (.dangling r)

/-- The node that a reference addresses. -/
def getSchema (g : Registry) (r : Reference) : Except ResolveError SchemaNode × Registry :=
  let (outcome, g) := g.document r.toLocator
  (outcome.bind (nodeOf r), g)

/-- Keeps a document under a locator and under the one that its `id` names. -/
def register (g : Registry) (r : Reference) (document : Json) :
    Except ResolveError Unit × Registry :=
  let locator := r.toLocator
  match g.checked locator document with
  | .error e => (.error e, g)
  | .ok document =>
    let kept := g.put locator (.ok document)
    match locator.secondLocator? document with
    | some other => (.ok (), kept.put other (.ok document))
    | none => (.ok (), kept)

/-- The locator of a root document: the one that its `id` names, if that has a scheme, and
otherwise the empty one. -/
def rootLocator (document : Json) : Except InvalidReference Reference :=
  match document.get? "id" with
  | some id => (Reference.ofJson id).map fun r =>
      if r.scheme.isSome then r.toLocator else .empty
  | none => .ok .empty

/-- Registers a root document and gives the locator that it is kept under. -/
def registerRoot (g : Registry) (document : Json) : Except ResolveError Reference × Registry :=
  match rootLocator document with
  | .error cause => (.error (.invalidReference cause), g)
  | .ok locator =>
    let (outcome, g) := g.register locator document
    (outcome.map fun _ => locator, g)

/-- Whether an outcome is kept for the document of a reference. -/
def isCached (g : Registry) (r : Reference) : Bool :=
  (g.cached? r).isSome

/-- Forgets every outcome. -/
def clear (g : Registry) : Registry :=
  { g with cache := [] }

/-- The node at a place seen from another node. -/
def find (g : Registry) (n : SchemaNode) (target : Target) :
    Except ResolveError SchemaNode × Registry :=
  match n.locate target with
  | .ok r => g.getSchema r
  | .error cause => (.error (.invalidReference cause), g)

/-- The fetchers of local files and archives. -/
def localFetchers (files : Files) : List (List Char × Fetcher) :=
  [(Url.fileScheme, .files files)] ++
    Reference.archiveSchemes.map fun scheme => (scheme, .archives files)

/-- The number of values in the documents that are kept. -/
def size (g : Registry) : Nat :=
  (g.cache.map fun e =>
    match e.2 with
    | .ok document => document.size
    | .error _ => 0).foldr (· + ·) 0

end Registry

end JsonSchema
