import JsonSchema.Cli.Arguments
import JsonSchema.Lint
import JsonSchema.Validation

/-!
# Commands

`Cli.run` answers a command line: it gives the exit code and what is written to the two output
streams. The code is 0 if all is well, 1 if a value is invalid or a lint fails, 3 if a document
cannot be fetched, and 2 in all other cases. Commands see a file system; the locators that they
asked it for are part of the answer.
-/

namespace JsonSchema.Cli

/-- The answer to a command line. -/
structure Output where
  code : Nat
  stdout : List String := []
  stderr : List String := []
  /-- The locators that were fetched. -/
  requests : List Reference := []

/-- The registry of the commands. -/
def registry (files : Files) : Registry where
  fetchers := Registry.localFetchers files
  vocabulary := .standard

/-- The answer to a command that fails with a message. -/
def failure (json : Bool) (message : String) (code : Nat) : Output :=
  if json then
    { code, stdout := [(Json.obj [("valid", .bool false), ("error", .str message)]).compact] }
  else { code, stderr := ["Error: " ++ message] }

/-- A finding as a document. -/
def findingJson (f : Finding) : Json :=
  .obj ([("pointer", .str (String.ofList f.pointer))] ++
    (f.keyword?.toList.map fun keyword => ("keyword", .str keyword)) ++
    [("kind", .str f.kind), ("message", .str f.message)])

/-- The answer to a command that fails because a schema cannot be resolved. -/
def unresolved (json : Bool) (e : ResolveError) : Output :=
  match e with
  | .malformed _ findings =>
    if json then
      { code := e.exitCode
        stdout := [(Json.obj [("valid", .bool false), ("error", .str e.message),
          ("syntax", .arr (findings.map findingJson))]).compact] }
    else
      let fatal := (findings.filter Finding.isFatal).map fun f => "  " ++ f.text
      let others := (findings.filter fun f => !f.isFatal).map fun f => "  warning: " ++ f.text
      { code := e.exitCode, stderr := ("Error: " ++ e.message) :: fatal ++ others }
  | e => failure json e.message e.exitCode

/-- A schema source without its fragment, and the fragment with its `#`. -/
def splitSource (source : List Char) : List Char × List Char :=
  (source.takeWhile (· ≠ '#'), source.dropWhile (· ≠ '#'))

/-- The reference that a schema source names. -/
def schemaReference (files : Files) (source : List Char) : Except Output Reference := do
  let (document, fragment) := splitSource source
  let locator ← (files.reference document).mapError fun e => failure false e.message 3
  if fragment = [] then
    return locator
  let fragment ← (Reference.parse (String.ofList fragment)).mapError fun e =>
    failure false e.message 2
  return locator.resolve fragment

/-- A message as a document. -/
def messageJson (m : Message) : Json :=
  .obj [("path", .str (String.ofList m.path)), ("keyword", .str m.keyword),
    ("message", .str m.message)]

/-- The answer to a report. -/
def reported (json : Bool) (r : Validation.Report) : Output :=
  if r.valid then
    { code := 0, stdout := [if json then (Json.obj [("valid", .bool true)]).compact else "Valid"] }
  else if json then
    { code := 1
      stdout := [(Json.obj [("valid", .bool false),
        ("errors", .arr (r.messages.map messageJson))]).compact] }
  else
    { code := 1, stderr := "Validation failed:" :: r.messages.map fun m => "  " ++ m.text }

/-- The answer to the failure of a validation. -/
def faulted (json : Bool) : Validation.Fault → Output
  | .unresolved e => unresolved json e
  | .overflow _ => { code := 101, stderr := [Validation.overflowMessage] }
  | .exhausted => { code := 134, stderr := ["evaluations nest too deeply"] }

/-- Validates the document at a path against a schema source. -/
def validate (files : Files) (document schema : List Char) (json : Bool) : Output :=
  match files.loadJson document with
  | .error e => failure json ("loading instance: " ++ e.message) e.exitCode
  | .ok value =>
    match schemaReference files schema with
    | .error output => output
    | .ok r =>
      let (result, g) := (registry files).validate r value
      let output :=
        match result with
        | .ok report => reported json report
        | .error fault => faulted json fault
      { output with requests := g.requests }

/-- Checks a schema source. -/
def check (files : Files) (schema : List Char) : Output :=
  match schemaReference files schema with
  | .error output => output
  | .ok r =>
    let (found, g) := (registry files).getSchema r
    let output : Output :=
      match found with
      | .ok node =>
        { code := 0
          stdout := ["Schema OK: " ++ r.text]
          stderr := (g.vocabulary.findings node.raw).map fun f => "  warning: " ++ f.text }
      | .error e => unresolved false e
    { output with requests := g.requests }

/-- A text in a color of the terminal. -/
def colored (color : String) (text : String) : String :=
  "\x1b[" ++ color ++ "m" ++ text ++ "\x1b[0m"

/-- The mark of a file. -/
def mark : Lint.Status → String
  | .ok => colored "32" "✓"
  | .warning => colored "33" "⚠"
  | .error => colored "31" "✗"

/-- A diagnostic as a line. -/
def diagnosticLine (d : Lint.Diagnostic) : String :=
  let color :=
    match d.severity with
    | .error => "31"
    | .warning => "33"
  "    " ++ colored color (d.severity.name ++ "[" ++ d.code ++ "]") ++ ": " ++
    String.ofList d.path ++ " - " ++ d.message

/-- The lines about a file; a quiet lint shows errors only. -/
def fileLines (quiet : Bool) (r : Lint.FileReport) : List String :=
  (if quiet ∧ r.status = .ok then [] else ["  " ++ mark r.status ++ " " ++ String.ofList r.file]) ++
    ((r.diagnostics.filter fun d => !quiet || d.severity == .error).map diagnosticLine)

/-- The last line of a lint. -/
def summaryLine (r : Lint.Report) : String :=
  if r.passes then
    colored "32" ("✓ " ++ Text.decimal r.checked ++ " files checked, all passed")
  else
    colored "31" ("✗ " ++ Text.decimal r.checked ++ " files checked: " ++ Text.decimal r.passed ++
      " passed, " ++ Text.decimal r.failed ++ " failed (" ++ Text.decimal r.errors ++ " errors, " ++
      Text.decimal r.warnings ++ " warnings)")

/-- Lints the schema files at a path. -/
def lint (files : Files) (path : List Char) (json strict quiet : Bool) : Output :=
  if !files.contains path then
    { code := 2, stderr := ["Error: path not found: " ++ String.ofList path] }
  else
    let r := files.lint path strict
    let heading := if quiet then [] else ["Linting " ++ String.ofList path ++ " ...\n"]
    let lines :=
      if json then [r.toJson.pretty]
      else heading ++ r.files.flatMap (fileLines quiet) ++ ["", summaryLine r]
    { code := if r.passes then 0 else 1, stdout := lines }

/-- Runs a command. -/
def Command.run (files : Files) : Command → Output
  | validate document schema json => Cli.validate files document schema json
  | check schema => Cli.check files schema
  | lint path json strict quiet => Cli.lint files path json strict quiet

/-- How the program is used. -/
def usage : List String :=
  ["Usage: schemawalk [-v] <COMMAND>", "",
    "Commands:",
    "  validate <INSTANCE> --schema <SCHEMA> [--json]",
    "  check <SCHEMA>",
    "  lint <PATH> [--format text|json] [--strict] [--quiet]",
    "  help [COMMAND]"]

/-- The name and version of the program. -/
def versionLine : String :=
  "schemawalk 0.3.0"

/-- The answer to a command line. -/
def run (files : Files) (arguments : List String) : Output :=
  match read arguments with
  | .ok command => command.run files
  | .error .help => { code := 0, stdout := usage }
  | .error .version => { code := 0, stdout := [versionLine] }
  | .error .usage => { code := 2, stderr := usage }

/-- Lines as they are written, each with its end. -/
def written (lines : List String) : String :=
  String.ofList (lines.flatMap fun line => line.toList ++ ['\n'])

end JsonSchema.Cli
