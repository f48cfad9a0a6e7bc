import JsonSchema.Constraint
import JsonSchema.Registry
import JsonSchema.Routing

/-!
# Validating values

A value is valid against a schema if it passes every constraint of the schema that concerns its
type, and then every child is valid against each schema that the schema gives for it. A value that
fails a constraint is not descended into. Constraints may leave the matter to other schemas, which
are looked up in a registry; schemas may refer to each other in circles, and a pair of schema and
value that is already being evaluated counts as valid.

* `Validation.visit` evaluates one schema on one node of an instance, with a bound on the nesting.
* `Validation.State.validate` does so with a state that keeps messages between evaluations.
* `Registry.validate` evaluates a reference on a value and gives a report.
-/

namespace JsonSchema

/-- A violation of a keyword at a place of an instance. -/
structure Message where
  path : List Char
  keyword : String
  violation : Violation

namespace Message

/-- A message in words, without its place. -/
def message (m : Message) : String :=
  m.violation.message

/-- A message in words, with its place and keyword. -/
def text (m : Message) : String :=
  (if m.path = [] then "/" else String.ofList m.path) ++ ": [" ++ m.keyword ++ "] " ++ m.message

end Message

namespace Validation

/-- A pair of schema and place of the instance, each by its text. -/
abbrev Pair := List Char × List Char

/-- Why an evaluation has no verdict. -/
inductive Fault
  /-- A schema cannot be resolved. -/
  | unresolved (cause : ResolveError)
  /-- A remainder was out of range; `active` are the pairs that were being evaluated. -/
  | overflow (active : List Pair)
  /-- Evaluations were nested too deeply. -/
  | exhausted

/-- The words for a remainder that is out of range. -/
def overflowMessage : String :=
  "attempt to calculate the remainder with overflow"

/-- What an evaluation leaves behind: the registry and the messages, in order. -/
structure Progress where
  registry : Registry
  messages : List Message

/-- A computation that looks up schemas and reports messages. Messages stay if it fails. -/
abbrev Evaluation := ExceptT Fault (StateM Progress)

namespace Evaluation

/-- Reports violations of a keyword. -/
def report (n : Instance) (keyword : String) (violations : List Violation) : Evaluation Unit :=
  ExceptT.mk fun p =>
    (.ok (), { p with messages := p.messages ++ violations.map (⟨n.pointer, keyword, ·⟩) })

/-- Looks up a schema seen from another one. -/
def find (schema : SchemaNode) (target : Target) : Evaluation SchemaNode :=
  ExceptT.mk fun p =>
    let (found, registry) := p.registry.find schema target
    (found.mapError .unresolved, { p with registry })

/-- Looks up several schemas seen from another one. -/
def findAll (schema : SchemaNode) : List Target → Evaluation (List SchemaNode)
  | [] => pure []
  | target :: rest => do
    let first ← find schema target
    let others ← findAll schema rest
    return first :: others

/-- Runs every test and says whether all of them passed. -/
def all : List (Evaluation Bool) → Evaluation Bool
  | [] => pure true
  | test :: rest => do
    let passed ← test
    let others ← all rest
    return passed && others

/-- Runs tests until one passes, and says whether one did. -/
def any : List (Evaluation Bool) → Evaluation Bool
  | [] => pure false
  | test :: rest => do
    if ← test then pure true else any rest

/-- Runs a test without its messages. Pairs that it leaves active are forgotten, too. -/
def silently (active : List Pair) (test : Evaluation Bool) : Evaluation Bool :=
  ExceptT.mk fun p =>
    let (result, q) := test.run ⟨p.registry, []⟩
    let result := result.mapError fun
      | .overflow _ => .overflow active
      | fault => fault
    (result, ⟨q.registry, p.messages⟩)

/-- Takes a result, and reports violations if it is not passed. -/
def orReport (passed : Bool) (n : Instance) (keyword : String) (violation : Violation) :
    Evaluation Bool := do
  if !passed then
    report n keyword [violation]
  return passed

end Evaluation

open Evaluation

/-- Whether an instance passes a constraint of a schema. `visit` evaluates other schemas. -/
def passes (visit : SchemaNode → Instance → Evaluation Bool) (active : List Pair)
    (schema : SchemaNode) (n : Instance) (c : Constraint) : Evaluation Bool :=
  match c.judge n.value with
  | .passed => pure true
  | .failed violations => do
    report n c.keyword violations
    return false
  | .deferred target => do
    visit (← find schema target) n
  | .anyOf targets otherwise => do
    let schemas ← findAll schema targets
    let accepted ← any (schemas.map fun s => silently active (visit s n))
    orReport accepted n c.keyword otherwise
  | .noneOf targets otherwise => do
    let schemas ← findAll schema targets
    let accepted ← any (schemas.map fun s => silently active (visit s n))
    orReport (!accepted) n c.keyword otherwise
  | .overflow => throw (.overflow active)

/-- Whether a child of an instance is valid against each schema that a schema gives for it. -/
def childPasses (visit : SchemaNode → Instance → Evaluation Bool) (schema : SchemaNode)
    (routing : Routing) (child : Instance) : Evaluation Bool := do
  let targets := (child.step.map (routing.targets schema.raw)).getD []
  let schemas ← findAll schema targets
  all (schemas.map fun s => visit s child)

/-- The pair of a schema and a place of an instance. -/
def pairOf (schema : SchemaNode) (n : Instance) : Pair :=
  (schema.reference.canonical, n.pointer)

/-- Whether an instance is valid against a schema, while the pairs `active` are being evaluated.
Evaluations may be nested less than `depth` times. -/
def visit : Nat → List Pair → SchemaNode → Instance → Evaluation Bool
  | 0, _, _, _ => throw .exhausted
  | depth + 1, active, schema, n => do
    if pairOf schema n ∈ active then
      return true
    let active := pairOf schema n :: active
    let constraints := Constraint.forType schema.raw n.type
    let passed ← all (constraints.map (passes (visit depth active) active schema n))
    if !passed then
      return false
    let routing := Routing.of n.type schema.raw
    if routing = .none then
      return true
    all (n.children.map (childPasses (visit depth active) schema routing))

/-- How deep evaluations may nest beyond what the documents at hand need, as others are loaded. -/
def allowance : Nat := 100000

/-- How deep evaluations may nest. A pair of schema and value is not evaluated within itself. The
values are the parts of `value`. Each schema is a place of a document at hand, named by the
text of a reference in such a document followed by the names that lead on from there. -/
def depthBound (g : Registry) (schema : SchemaNode) (value : Json) : Nat :=
  let places := g.size + schema.document.size + 1
  places * places * value.size + allowance

/-- What is kept between evaluations. -/
structure State where
  messages : List Message := []
  /-- The pairs that count as being evaluated. -/
  active : List Pair := []

/-- Whether an instance is valid against a schema, with the messages added to a state. -/
def State.validate (s : State) (g : Registry) (schema : SchemaNode) (n : Instance) :
    Except Fault Bool × State × Registry :=
  let depth := depthBound g schema n.value
  let (result, p) := (visit depth s.active schema n).run ⟨g, s.messages⟩
  let active :=
    match result with
    | .error (.overflow active) => active
    | _ => s.active
  (result, ⟨p.messages, active⟩, p.registry)

/-- The outcome of a validation. -/
structure Report where
  valid : Bool
  messages : List Message

/-- What is said about a report of an invalid value. -/
def Report.summary (r : Report) : String :=
  "validation failed with " ++ Text.decimal r.messages.length ++ " error(s)"

end Validation

open Validation

/-- The report of a schema on a value. -/
def SchemaNode.validate (schema : SchemaNode) (g : Registry) (value : Json) :
    Except Fault Report × Registry :=
  let (result, state, g) := State.validate {} g schema (.root value)
  (result.map fun valid => ⟨valid, state.messages⟩, g)

/-- The report of the schema that a reference addresses on a value. -/
def Registry.validate (g : Registry) (r : Reference) (value : Json) :
    Except Fault Report × Registry :=
  match g.getSchema r with
  | (.ok schema, g) => schema.validate g value
  | (.error cause, g) => (.error (.unresolved cause), g)

/-- The report of a root document on a value, in a registry without other documents. -/
def Registry.validateRoot (g : Registry) (document value : Json) : Except Fault Report :=
  match g.registerRoot document with
  | (.ok r, g) => (g.validate r value).1
  | (.error cause, _) => .error (.unresolved cause)

end JsonSchema
