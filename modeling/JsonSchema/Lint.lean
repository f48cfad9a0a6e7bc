import JsonSchema.Load
import JsonSchema.Vocabulary.Standard

/-!
# Linting schema files

A lint looks at schema files without any value to validate. A file that holds no JSON text has the
error E001. Otherwise its findings are errors E002, unknown keywords the warning W001, and
references that lead nowhere in their own document, or are no references, the errors E003 and
E004.

* `Files.lintFile` looks at one file and `Files.lint` at all files below a directory.
* `Lint.Report` has the totals; `Lint.Report.passes` says whether the lint as a whole succeeds.
-/

namespace JsonSchema

namespace Lint

/-- How serious a diagnostic is. -/
inductive Severity
  | error | warning
  deriving DecidableEq

/-- What a diagnostic is about. -/
inductive Cause
  /-- The file holds no document. -/
  | unloadable (cause : ResolveError)
  /-- A finding of the check of the document. -/
  | finding (finding : Finding)
  /-- A reference addresses nothing in its own document. -/
  | dangling (reference : String)
  | badReference (cause : InvalidReference)

/-- Something that is wrong at a place of a file. -/
structure Diagnostic where
  file : List Char
  path : List Char
  cause : Cause

/-- How a file stands. -/
inductive Status
  | ok | warning | error
  deriving DecidableEq

/-- A file with its diagnostics. -/
structure FileReport where
  file : List Char
  diagnostics : List Diagnostic

/-- The files below a path with their diagnostics. A strict lint fails on warnings, too. -/
structure Report where
  path : List Char
  strict : Bool
  files : List FileReport

namespace Diagnostic

/-- How serious a diagnostic is: unknown keywords are warnings, all else is an error. -/
def severity (d : Diagnostic) : Severity :=
  match d.cause with
  | .finding f => if f.isFatal then .error else .warning
  | _ => .error

/-- The code of a diagnostic. -/
def code (d : Diagnostic) : String :=
  match d.cause with
  | .unloadable _ => "E001"
  | .finding f => if f.isFatal then "E002" else "W001"
  | .dangling _ => "E003"
  | .badReference _ => "E004"

/-- A diagnostic in words. -/
def message (d : Diagnostic) : String :=
  match d.cause with
  | .unloadable cause => "syntax error: " ++ cause.message
  | .finding f => f.message
  | .dangling reference => "reference does not resolve: " ++ reference
  | .badReference cause => cause.message

end Diagnostic

/-! ### References -/

/-- What is wrong with a reference of a document. -/
def referenceFault (document : Json) (reference : String) : Option Cause :=
  match Reference.parse reference with
  | .error cause => some (.badReference cause)
  | .ok r =>
    if r.locator = [] ∧ (r.fragment.resolve? document).isNone then some (.dangling reference)
    else none

/-- The fault of the `$ref` of an object at the place `pointer`. -/
def ownFault (document : Json) (pointer : List Char) (v : Json) : List (List Char × Cause) :=
  match v.get? "$ref" with
  | some (.str reference) =>
    (referenceFault document reference).toList.map fun cause => (pointer ++ "/$ref".toList, cause)
  | _ => []

mutual

/-- The faults of references at and below a place, with the paths of the references. Values of
`enum` and `default` hold data and no references. -/
def referenceFaults (document : Json) (pointer : List Char) : Json → List (List Char × Cause)
  | .obj members =>
    ownFault document pointer (.obj members) ++ memberFaults document pointer members
  | .arr items => itemFaults document pointer 0 items
  | _ => []

/-- The same below the items of an array, the first of which has index `i`. -/
def itemFaults (document : Json) (pointer : List Char) (i : Nat) :
    List Json → List (List Char × Cause)
  | [] => []
  | item :: rest =>
    referenceFaults document (Pointer.item pointer i) item ++
      itemFaults document pointer (i + 1) rest

/-- The same below the members of an object. -/
def memberFaults (document : Json) (pointer : List Char) :
    List (String × Json) → List (List Char × Cause)
  | [] => []
  | (name, value) :: rest =>
    (if name = "enum" ∨ name = "default" then []
      else referenceFaults document (Pointer.child pointer name.toList) value) ++
      memberFaults document pointer rest

end

/-! ### Files -/

/-- The path of a finding: its keyword, or its place if it is about no keyword. -/
def findingPath (f : Finding) : List Char :=
  match f.keyword? with
  | some keyword => Pointer.child f.pointer keyword.toList
  | none => if f.pointer = [] then ['/'] else f.pointer

/-- The diagnostics of a document in a file. -/
def diagnose (file : List Char) (document : Json) : List Diagnostic :=
  (Vocabulary.standard.findings document).map (fun f => ⟨file, findingPath f, .finding f⟩) ++
    (referenceFaults document [] document).map fun (path, cause) => ⟨file, path, cause⟩

namespace FileReport

/-- Whether some diagnostic is of a severity. -/
def has (r : FileReport) (s : Severity) : Bool :=
  r.diagnostics.any fun d => d.severity == s

/-- The number of diagnostics of a severity. -/
def count (r : FileReport) (s : Severity) : Nat :=
  r.diagnostics.countP fun d => d.severity == s

/-- How a file stands, by its worst diagnostic. -/
def status (r : FileReport) : Status :=
  if r.has .error then .error else if r.has .warning then .warning else .ok

end FileReport

namespace Report

/-- Whether a file fails. -/
def fails (r : Report) (f : FileReport) : Bool :=
  if r.strict then f.status != .ok else f.status == .error

/-- The number of files that were looked at. -/
def checked (r : Report) : Nat :=
  r.files.length

/-- The number of files that fail. -/
def failed (r : Report) : Nat :=
  r.files.countP r.fails

/-- The number of files that do not fail. -/
def passed (r : Report) : Nat :=
  r.checked - r.failed

/-- The number of errors in all files. -/
def errors (r : Report) : Nat :=
  (r.files.map fun f => f.count .error).foldr (· + ·) 0

/-- The number of warnings in all files. -/
def warnings (r : Report) : Nat :=
  (r.files.map fun f => f.count .warning).foldr (· + ·) 0

/-- Whether no file has an error. -/
def isOk (r : Report) : Bool :=
  r.errors == 0

/-- Whether the lint as a whole succeeds. -/
def passes (r : Report) : Bool :=
  r.isOk && (!r.strict || r.warnings == 0)

end Report

/-! ### Reports as documents -/

/-- The name of a severity. -/
def Severity.name : Severity → String
  | error => "error"
  | warning => "warning"

/-- The name of a status. -/
def Status.name : Status → String
  | ok => "ok"
  | warning => "warning"
  | error => "error"

/-- A diagnostic as a document. -/
def Diagnostic.toJson (d : Diagnostic) : Json :=
  .obj [("severity", .str d.severity.name), ("code", .str d.code),
    ("file", .str (String.ofList d.file)), ("path", .str (String.ofList d.path)),
    ("message", .str d.message)]

/-- The report on a file as a document; an empty list of diagnostics is left out. -/
def FileReport.toJson (r : FileReport) : Json :=
  .obj ([("file", .str (String.ofList r.file)), ("status", .str r.status.name)] ++
    if r.diagnostics.isEmpty then []
    else [("diagnostics", .arr (r.diagnostics.map Diagnostic.toJson))])

/-- A report as a document. -/
def Report.toJson (r : Report) : Json :=
  .obj [("path", .str (String.ofList r.path)), ("files_checked", .num (.ofNat r.checked)),
    ("passed", .num (.ofNat r.passed)), ("failed", .num (.ofNat r.failed)),
    ("errors", .num (.ofNat r.errors)), ("warnings", .num (.ofNat r.warnings)),
    ("results", .arr (r.files.map FileReport.toJson))]

end Lint

/-- The report on a file; its name is given from `base` on, if it is below that. -/
def Files.lintFile (files : Files) (file base : List Char) : Lint.FileReport :=
  let shown := (Path.below? file base).getD file
  match files.loadJson file with
  | .error cause => ⟨shown, [⟨file, ['/'], .unloadable cause⟩]⟩
  | .ok document => ⟨shown, Lint.diagnose file document⟩

/-- The report on a file, or on all documents below a directory. -/
def Files.lint (files : Files) (path : List Char) (strict : Bool) : Lint.Report :=
  ⟨path, strict, (files.documents path).map fun file => files.lintFile file path⟩

end JsonSchema
