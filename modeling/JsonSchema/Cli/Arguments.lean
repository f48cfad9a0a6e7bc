import JsonSchema.Text.Split

/-!
# Command lines

A command line names one of three commands and gives it options and operands. Options have a long
name and may have a letter; letters may be put together, and a value follows its option after `=`,
directly after the letter, or as the next argument. After `--` there are only operands.
`Cli.read` reads the arguments from left to right and stops at the first fault, or at a question
for help or the version.
-/

namespace JsonSchema.Cli

/-- What a command line asks for. -/
inductive Command
  /-- Validate the document at a path against a schema source. -/
  | validate (document schema : List Char) (json : Bool)
  /-- Check a schema source. -/
  | check (schema : List Char)
  /-- Lint the schema files at a path. -/
  | lint (path : List Char) (json strict quiet : Bool)

/-- Why a command line asks for no command. -/
inductive Ending
  /-- The arguments are wrong. -/
  | usage
  | help
  | version

/-- The options. -/
inductive Switch
  | verbose | help | version | schema | json | format | strict | quiet
  deriving DecidableEq

/-- The parts of the program that have options of their own. -/
inductive Scope
  | top | validate | check | lint

namespace Switch

/-- The long name of an option. -/
def name : Switch → String
  | verbose => "verbose"
  | help => "help"
  | version => "version"
  | schema => "schema"
  | json => "json"
  | format => "format"
  | strict => "strict"
  | quiet => "quiet"

/-- The letter of an option. -/
def letter? : Switch → Option Char
  | verbose => some 'v'
  | help => some 'h'
  | version => some 'V'
  | schema => some 's'
  | quiet => some 'q'
  | json | format | strict => none

/-- Whether an option has a value. -/
def takesValue : Switch → Bool
  | schema | format => true
  | _ => false

end Switch

/-- The options of a scope. -/
def Scope.switches : Scope → List Switch
  | top => [.verbose, .help, .version]
  | validate => [.verbose, .help, .schema, .json]
  | check => [.verbose, .help]
  | lint => [.verbose, .help, .format, .strict, .quiet]

/-- What was read so far of the arguments of a command. -/
structure Given where
  options : List (Switch × List Char) := []
  operand : Option (List Char) := none
  /-- An option whose value comes next. -/
  pending : Option Switch := none
  /-- Only operands follow. -/
  operandsOnly : Bool := false

namespace Given

/-- Whether an option is given. -/
def has (g : Given) (s : Switch) : Bool :=
  g.options.any fun o => o.1 == s

/-- Adds an option; only `verbose` may be given twice. -/
def add (g : Given) (s : Switch) (value : List Char) : Except Ending Given :=
  if s = .help then .error .help
  else if s = .version then .error .version
  else if g.has s ∧ s ≠ .verbose then .error .usage
  else .ok { g with options := (s, value) :: g.options }

/-- Reads letters that were put together. -/
def letters (scope : Scope) (g : Given) : List Char → Except Ending Given
  | [] => .ok g
  | c :: rest =>
    match scope.switches.find? fun s => s.letter? == some c with
    | none => .error .usage
    | some s =>
      if s.takesValue then
        match rest with
        | [] => .ok { g with pending := some s }
        | '=' :: value => g.add s value
        | value => g.add s value
      else
        match g.add s [] with
        | .ok g => letters scope g rest
        | .error e => .error e

/-- Reads a long name, with its value if there is one. -/
def long (scope : Scope) (g : Given) (text : List Char) : Except Ending Given :=
  let (name, value) :=
    match Text.cut? '=' text with
    | some (name, value) => (name, some value)
    | none => (text, none)
  match scope.switches.find? fun s => s.name.toList == name with
  | none => .error .usage
  | some s =>
    if s.takesValue then
      match value with
      | some value => g.add s value
      | none => .ok { g with pending := some s }
    else if value.isSome then .error .usage
    else g.add s []

/-- Reads an operand; there is one at most. -/
def addOperand (mayBeEmpty : Bool) (g : Given) (text : List Char) : Except Ending Given :=
  if g.operand.isSome ∨ (text = [] ∧ !mayBeEmpty) then .error .usage
  else .ok { g with operand := some text }

/-- Whether an argument is an option. -/
def isOption : List Char → Bool
  | '-' :: _ :: _ => true
  | _ => false

/-- Reads one argument. -/
def argument (scope : Scope) (mayBeEmpty : Bool) (g : Given) (text : List Char) :
    Except Ending Given :=
  if g.operandsOnly then addOperand mayBeEmpty g text
  else
    match g.pending with
    | some s => if isOption text then .error .usage else { g with pending := none }.add s text
    | none =>
      match text with
      | ['-', '-'] => .ok { g with operandsOnly := true }
      | '-' :: '-' :: text => long scope g text
      | '-' :: c :: text => letters scope g (c :: text)
      | text => addOperand mayBeEmpty g text

/-- The operand, which must be there, once no option lacks its value. -/
def finish (g : Given) : Except Ending (List Char) :=
  match g.pending, g.operand with
  | none, some operand => .ok operand
  | _, _ => .error .usage

/-- The value of an option. -/
def value? (g : Given) (s : Switch) : Option (List Char) :=
  g.options.lookup s

end Given

/-- Reads the arguments of `validate`. -/
def readValidate (arguments : List (List Char)) : Except Ending Command := do
  let g ← arguments.foldlM (Given.argument .validate false) {}
  let document ← g.finish
  match g.value? .schema with
  | some schema => return .validate document schema (g.has .json)
  | none => throw .usage

/-- Reads the arguments of `check`. -/
def readCheck (arguments : List (List Char)) : Except Ending Command := do
  let g ← arguments.foldlM (Given.argument .check true) {}
  return .check (← g.finish)

/-- Reads the arguments of `lint`. -/
def readLint (arguments : List (List Char)) : Except Ending Command := do
  let g ← arguments.foldlM (Given.argument .lint false) {}
  let path ← g.finish
  return .lint path (g.value? .format == some "json".toList) (g.has .strict) (g.has .quiet)

/-- The readers of the arguments of the commands. -/
def commands : List (String × (List (List Char) → Except Ending Command)) :=
  [("validate", readValidate), ("check", readCheck), ("lint", readLint)]

/-- The answer to a question for help, which may be about one command. -/
def readHelp : List (List Char) → Ending
  | [] => .help
  | [name] =>
    if name = "help".toList ∨ (commands.lookup (String.ofList name)).isSome then .help
    else .usage
  | _ => .usage

/-- Reads a command line of whose options some are read. -/
def readFrom (g : Given) : List (List Char) → Except Ending Command
  | [] => .error .usage
  | text :: rest =>
    if Given.isOption text ∧ text ≠ ['-', '-'] then
      match g.argument .top false text with
      | .ok g => readFrom g rest
      | .error e => .error e
    else if text = "help".toList then .error (readHelp rest)
    else
      match commands.lookup (String.ofList text) with
      | some read => read rest
      | none => .error .usage

/-- Reads a command line. -/
def read (arguments : List String) : Except Ending Command :=
  readFrom {} (arguments.map String.toList)

end JsonSchema.Cli
