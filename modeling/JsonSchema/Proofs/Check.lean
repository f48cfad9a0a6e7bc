import JsonSchema.Cli
import JsonSchema.Proofs.Fetched
import JsonSchema.Proofs.Nodes
import JsonSchema.Proofs.Reader
import JsonSchema.Proofs.Remainder
import Mathlib

/-!
# What the check command passes

The command `check` exits with 0 if the document of a source loads and the fragment addresses a
node of it. To load, the document must be a schema. So the node is one, too, if the check of the
document visits it; but a fragment may lead into data that the check does not visit, and what is
wrong with a node there is printed and does not change the exit code.

* `Registry.load_eq_ok_iff`: which documents load.
* `Cli.Addresses`: a source addresses a node of a document that loads.
* `Cli.check_passes_iff`: which sources pass, and which of them are schemas.
-/

namespace JsonSchema

namespace Registry

variable {g : Registry} {locator r : Reference} {d : Json}

/-- A document that loads is what a fetcher has. -/
theorem serves_of_load (h : (g.load locator).1 = .ok d) : Serves g.fetchers locator d := by
  unfold load at h
  split at h
  · cases h
  rename_i scheme hs
  split at h
  · cases h
  rename_i fetcher hf
  split at h
  · cases h
  rename_i bytes hb
  obtain ⟨document, hread, hc⟩ := Uri.bind_eq_ok_iff.1 h
  obtain rfl : document = d := by
    unfold checked at hc
    split at hc <;> cases hc
    rfl
  refine ⟨scheme, fetcher, bytes, hs, hf, hb, ?_⟩
  cases hbytes : Json.read bytes with
  | error fault =>
    rw [hbytes] at hread
    cases hread
  | ok document' =>
    rw [hbytes] at hread
    cases hread
    rfl

theorem Serves.wellFormed {fetchers : List (List Char × Fetcher)}
    (h : Serves fetchers locator d) : d.WellFormed := by
  obtain ⟨_, _, bytes, -, -, -, hread⟩ := h
  exact Json.wellFormed_of_read hread

/-- **A document loads if a fetcher has it and it is accepted.** -/
theorem load_eq_ok_iff :
    (g.load locator).1 = .ok d ↔ Serves g.fetchers locator d ∧ g.vocabulary.accepts d :=
  ⟨fun h => ⟨serves_of_load h, accepts_of_load h⟩, fun h => load_of_serves h.1 h.2⟩

/-- A look-up finds a node in what is loaded, in a registry that keeps nothing. -/
theorem getSchema_eq_ok_iff (hc : g.cached? r.toLocator = none) {n : SchemaNode} :
    (g.getSchema r).1 = .ok n ↔ ∃ d place, (g.load r.toLocator).1 = .ok d ∧
      r.fragment.locate? d = some place ∧ n = .of r.toLocator d place := by
  rw [getSchema_fst, document_of_not_cached hc]
  constructor
  · intro h
    obtain ⟨d, hd, hn⟩ := Uri.bind_eq_ok_iff.1 h
    obtain ⟨place, hp, rfl⟩ := nodeOf_eq_ok hn
    exact ⟨d, place, hd, hp, rfl⟩
  · rintro ⟨d, place, hd, hp, rfl⟩
    refine Uri.bind_eq_ok_iff.2 ⟨d, hd, ?_⟩
    rw [nodeOf, hp]

end Registry

namespace Cli

variable {files : Files} {source place : List Char} {r : Reference} {document v : Json}

/-- The reference of a schema source addresses the value `v` at a place of a document that is
fetched and accepted. -/
structure Addresses (files : Files) (source : List Char) (r : Reference) (document : Json)
    (place : List Char) (v : Json) : Prop where
  names : schemaReference files source = .ok r
  served : Registry.Serves (Registry.localFetchers files) r.toLocator document
  accepted : Vocabulary.standard.accepts document
  located : r.fragment.locate? document = some place
  value : document.at? place = some v

/-! ## Exit codes -/

theorem ok_of_toOption {ε α : Type} {x : Except ε α} {a : α} (h : x.toOption = some a) :
    x = .ok a := by
  cases x with
  | error e => cases h
  | ok b => exact congrArg Except.ok (Option.some.inj h)

theorem mapError_eq_error_iff {ε ε' α : Type} {x : Except ε α} {f : ε → ε'} {e : ε'} :
    x.mapError f = .error e ↔ ∃ e', x = .error e' ∧ f e' = e := by
  cases x with
  | error e' => simp [Except.mapError]
  | ok a => simp [Except.mapError]

theorem exitCode_ne_zero (e : ResolveError) : e.exitCode ≠ 0 := by
  cases e <;> exact nofun

theorem code_failure (json : Bool) (message : String) (code : Nat) :
    (failure json message code).code = code := by
  cases json <;> rfl

theorem code_unresolved (json : Bool) (e : ResolveError) :
    (unresolved json e).code = e.exitCode := by
  cases e with
  | malformed => cases json <;> rfl
  | _ => exact code_failure _ _ _

theorem code_ne_zero_of_schemaReference {output : Output}
    (h : schemaReference files source = .error output) : output.code ≠ 0 := by
  unfold schemaReference at h
  rcases Uri.bind_eq_error_iff.1 h with h | ⟨locator, -, h⟩
  · obtain ⟨e, -, rfl⟩ := mapError_eq_error_iff.1 h
    rw [code_failure]
    decide
  split at h
  · cases h
  rcases Uri.bind_eq_error_iff.1 h with h | ⟨fragment, -, h⟩
  · obtain ⟨e, -, rfl⟩ := mapError_eq_error_iff.1 h
    rw [code_failure]
    decide
  · cases h

/-- The exit code is that of the look-up. -/
theorem code_check (hr : schemaReference files source = .ok r) : (check files source).code =
    match ((registry files).getSchema r).1 with
    | .ok _ => 0
    | .error e => e.exitCode := by
  simp only [check, hr]
  generalize (registry files).getSchema r = looked
  obtain ⟨found, g⟩ := looked
  cases found with
  | ok n => rfl
  | error e => exact code_unresolved false e

theorem code_check_eq_zero_iff : (check files source).code = 0 ↔
    ∃ r n, schemaReference files source = .ok r ∧ ((registry files).getSchema r).1 = .ok n := by
  cases hr : schemaReference files source with
  | error output =>
    simp only [check, hr]
    refine iff_of_false (code_ne_zero_of_schemaReference hr) ?_
    rintro ⟨_, _, h, -⟩
    cases h
  | ok r =>
    rw [code_check hr]
    constructor
    · intro h
      split at h
      · rename_i n hn
        exact ⟨r, n, rfl, hn⟩
      · exact absurd h (exitCode_ne_zero _)
    · rintro ⟨_, n, ⟨⟩, hn⟩
      rw [hn]

/-- **The check command passes the sources that address a node of a schema.** The node is a schema
if the check of the document visits its value; what is wrong with other nodes does not count. -/
theorem check_passes_iff (files : Files) (source : List Char) :
    ((check files source).code = 0 ↔
      ∃ r document place v, Addresses files source r document place v) ∧
    ∀ r document place v, Addresses files source r document place v →
      ∀ visited, (visited, v) ∈ Vocabulary.standard.positions document →
        Vocabulary.standard.accepts v := by
  refine ⟨code_check_eq_zero_iff.trans ⟨?_, ?_⟩, fun r document place v h visited hp =>
    Vocabulary.accepts_of_mem_positions h.accepted hp⟩
  · rintro ⟨r, n, hr, hn⟩
    obtain ⟨document, place, hd, hp, -⟩ := (Registry.getSchema_eq_ok_iff rfl).1 hn
    obtain ⟨hserved, haccepted⟩ := Registry.load_eq_ok_iff.1 hd
    obtain ⟨v, hv⟩ := Fragment.exists_at?_of_locate? hserved.wellFormed hp
    exact ⟨r, document, place, v, hr, hserved, haccepted, hp, hv⟩
  · rintro ⟨r, document, place, v, h⟩
    exact ⟨r, _, h.names, (Registry.getSchema_eq_ok_iff rfl).2
      ⟨document, place, Registry.load_eq_ok_iff.2 ⟨h.served, h.accepted⟩, h.located, rfl⟩⟩

/-- The integer 42, which is no schema. -/
def answer : Json :=
  .num (.int 42 (by decide))

/-- The text of a schema that has it as the default value. -/
def answering : List Char :=
  "\x7b\"default\":42\x7d".toList

/-- A file system with the schema in the file `s.json`. -/
def answeringFile : Files :=
  ⟨.directory [("s.json", .file (Utf8.encode answering))], []⟩

/-- The reference to the default value in the file. -/
def answerReference : Reference :=
  ⟨⟨some "file".toList, some [], "/s.json".toList, none, some "/default".toList⟩⟩

theorem addresses_answer : Addresses answeringFile "s.json#/default".toList answerReference
    (.obj [("default", answer)]) "/default".toList answer where
  names := ok_of_toOption (by decide +kernel)
  served := ⟨"file".toList, .files answeringFile, Utf8.encode answering, by decide +kernel, rfl,
    ok_of_toOption (by decide +kernel), by cbv⟩
  accepted := by cbv
  located := by decide +kernel
  value := by cbv

/-- **A number passes as a schema** where it is the default value of one. -/
theorem check_passes_answer :
    (check answeringFile "s.json#/default".toList).code = 0 ∧
      Addresses answeringFile "s.json#/default".toList answerReference
        (.obj [("default", answer)]) "/default".toList answer ∧
      Vocabulary.standard.accepts answer = false :=
  ⟨by decide +kernel, addresses_answer, by cbv⟩

end Cli

end JsonSchema
