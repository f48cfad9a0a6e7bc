import JsonSchema.Proofs.Lint
import Mathlib

/-!
# Where diagnostics point

A check writes the place of a finding down while it goes from schema to schema, and a lint writes
the path of a reference down while it goes through a document. Both build pointers of escaped names
and of indices, and never look at the document through them. But they lead there: a finding is
about a value of the document, and the path of a diagnostic leads to the value that it complains
about.

* `Json.IsMember`: the path of a member of an object.
* `Vocabulary.isAbout_of_mem_findingsAt`: what a check finds.
* `Lint.exists_isMember_of_mem_referenceFaults`: what a lint finds in references.
* `Lint.diagnostics_located`: the diagnostics of a file.
-/

namespace JsonSchema

variable {document schema v nested value : Json} {pointer place below path : List Char}
  {name : String}

/-! ## Members and their paths -/

/-- The object at a place has a member, and a path spells the way to the value of this member and
leads there. -/
structure Json.IsMember (document : Json) (path place : List Char) (name : String)
    (value : Json) : Prop where
  spelled : path = Pointer.child place name.toList
  object : ∃ members, document.at? place = some (.obj members) ∧
    lookup name members = some value
  leads : document.at? path = some value

theorem Json.isMember_of_get? (h : document.at? place = some v) (hg : v.get? name = some value) :
    document.IsMember (Pointer.child place name.toList) place name value where
  spelled := rfl
  object := by
    cases v with
    | obj members => exact ⟨members, h, hg⟩
    | _ => cases hg
  leads := (at?_child h _).trans (below?_toList v name hg)

/-! ## Findings -/

/-- A finding is about a value of a document: about one that is no object if it says so, and
otherwise about an object that has the keyword as a member. -/
def Finding.IsAbout (f : Finding) (document : Json) : Prop :=
  match f.cause with
  | .notASchema _ => ∃ v, document.at? f.pointer = some v ∧ v.isObject = false
  | .unknownKeyword keyword | .invalidKeyword keyword _ | .ruleFailed keyword _ =>
    ∃ value, document.IsMember (Pointer.child f.pointer keyword.toList) f.pointer keyword value

namespace Vocabulary

variable {voc : Vocabulary} {f : Finding}

/-- What is found in the schema at a place is about the value there. -/
theorem isAbout_of_finds (hd : document.WellFormed) (h : document.at? pointer = some schema)
    (hf : voc.Finds pointer schema f) : f.IsAbout document := by
  have hmember {keyword : String} {value : Json} (hm : (keyword, value) ∈ schema.members) :
      ∃ value, document.IsMember (Pointer.child pointer keyword.toList) pointer keyword value :=
    ⟨value, Json.isMember_of_get? h ((hd.at? h).get?_of_mem hm)⟩
  cases hf with
  | notASchema hobject => exact ⟨schema, h, hobject⟩
  | unknown hm => exact hmember hm
  | invalid hm => exact hmember hm
  | failed hm => exact hmember hm

/-- **The place of a schema that a standard rule has checked leads to this schema.** -/
theorem at?_of_nests (hd : document.WellFormed) (h : document.at? pointer = some schema)
    (hn : standard.Nests pointer schema below nested) : document.at? below = some nested := by
  obtain ⟨keyword, value, rule, tokens, hm, hr, hs, rfl⟩ := hn
  have hvalue : document.at? (Pointer.child pointer keyword.toList) = some value :=
    (Json.isMember_of_get? h ((hd.at? h).get?_of_mem hm)).leads
  rw [Json.at?_foldl_child hvalue]
  have hdescends := descends_of_mem_standard (mem_rules_of_rule? hr)
  rcases hdescends.below (hd.at? hvalue) hs with ⟨rfl, rfl⟩ | ⟨token, rfl, htoken⟩
  · rfl
  · rw [Json.walk?, htoken]
    rfl

/-- **What a check finds from a place on is about the document.** -/
theorem isAbout_of_mem_findingsAt (hd : document.WellFormed)
    (h : document.at? pointer = some schema) (hf : f ∈ standard.findingsAt pointer schema) :
    f.IsAbout document := by
  induction hf using findingsAt_induction with
  | here hf => exact isAbout_of_finds hd h hf
  | above hn _ ih => exact ih (at?_of_nests hd h hn)

end Vocabulary

/-! ## References -/

theorem Reference.input_of_parse {text : String} {cause : InvalidReference}
    (h : parse text = .error cause) : cause.input = text := by
  unfold parse at h
  split at h
  · cases h
  · cases h
    rfl

namespace Lint

variable {cause : Cause}

/-- The text of the reference that a cause is about. -/
def Cause.reference? : Cause → Option String
  | .dangling reference => some reference
  | .badReference cause => some cause.input
  | .unloadable _ | .finding _ => none

theorem reference?_of_referenceFault {text : String}
    (h : referenceFault document text = some cause) : cause.reference? = some text := by
  unfold referenceFault at h
  split at h
  · rename_i hp
    cases h
    exact congrArg some (Reference.input_of_parse hp)
  · split at h
    · cases h
      rfl
    · cases h

/-- A fault of the `$ref` of an object is about its text, and has its path. -/
theorem exists_get?_of_mem_ownFault (h : (path, cause) ∈ ownFault document place v) :
    ∃ text, cause.reference? = some text ∧ v.get? "$ref" = some (.str text) ∧
      path = Pointer.child place "$ref".toList := by
  unfold ownFault at h
  split at h
  · rename_i text hget
    obtain ⟨cause, hcause, he⟩ := List.mem_map.1 h
    cases he
    exact ⟨text, reference?_of_referenceFault (Option.mem_toList.1 hcause), hget, rfl⟩
  · cases h

/-- **The faults of references have the paths of these references.** -/
theorem exists_isMember_of_mem_referenceFaults (hd : document.WellFormed)
    (h : (path, cause) ∈ referenceFaults document [] document) :
    ∃ text place, cause.reference? = some text ∧
      document.IsMember path place "$ref" (.str text) := by
  obtain ⟨tokens, v, hleads, -, h⟩ := mem_referenceFaults_iff.1 h
  obtain ⟨text, hcause, hget, rfl⟩ := exists_get?_of_mem_ownFault h
  have hat : document.at? (tokens.foldl Pointer.child []) = some v :=
    (Json.at?_foldl_child (Json.at?_nil document) tokens).trans
      ((Json.walk?_eq_some_iff hd).2 hleads)
  exact ⟨text, _, hcause, Json.isMember_of_get? hat hget⟩

/-! ## Diagnostics -/

/-- The path of a diagnostic leads into a document: to the value of the keyword that a warning
(W001) or an error (E002) is about, to a value that is no object if the error (E002) says so, and to
the text of the reference of an error (E003, E004). The path of a document that is itself no object
is `/`. -/
def Diagnostic.PointsInto (d : Diagnostic) (document : Json) : Prop :=
  match d.cause with
  | .unloadable _ => False
  | .finding f =>
    match f.keyword? with
    | some keyword => ∃ value, document.IsMember d.path f.pointer keyword value
    | none => (document.isObject = false ∧ d.path = ['/']) ∨
      ∃ v, document.at? d.path = some v ∧ v.isObject = false
  | .dangling text => ∃ place, document.IsMember d.path place "$ref" (.str text)
  | .badReference cause => ∃ place, document.IsMember d.path place "$ref" (.str cause.input)

theorem pointsInto_of_isAbout {f : Finding} (file : List Char) (h : f.IsAbout document) :
    Diagnostic.PointsInto ⟨file, findingPath f, .finding f⟩ document := by
  obtain ⟨pointer, cause⟩ := f
  cases cause with
  | notASchema actual =>
    obtain ⟨v, hv, hobject⟩ := h
    by_cases hroot : pointer = []
    · subst hroot
      cases hv
      exact .inl ⟨hobject, rfl⟩
    · have hpath : findingPath ⟨pointer, .notASchema actual⟩ = pointer := if_neg hroot
      exact .inr ⟨v, hpath.symm ▸ hv, hobject⟩
  | unknownKeyword => exact h
  | invalidKeyword => exact h
  | ruleFailed => exact h

theorem pointsInto_of_mem_referenceFaults (file : List Char) (hd : document.WellFormed)
    (h : (path, cause) ∈ referenceFaults document [] document) :
    Diagnostic.PointsInto ⟨file, path, cause⟩ document := by
  obtain ⟨text, place, hcause, hmember⟩ := exists_isMember_of_mem_referenceFaults hd h
  cases cause with
  | dangling =>
    cases hcause
    exact ⟨place, hmember⟩
  | badReference =>
    cases hcause
    exact ⟨place, hmember⟩
  | unloadable => cases hcause
  | finding => cases hcause

/-- **Every diagnostic points at a real place.** What the standard check finds in a document is
about a value of the document, and the diagnostics of a file with this document have paths that
lead to what they complain about. -/
theorem diagnostics_located (hd : document.WellFormed) :
    (∀ f ∈ Vocabulary.standard.findings document, f.IsAbout document) ∧
    ∀ (files : Files) (file base : List Char), files.loadJson file = .ok document →
      ∀ d ∈ (files.lintFile file base).diagnostics, d.PointsInto document := by
  have hfindings (f : Finding) (hf : f ∈ Vocabulary.standard.findings document) :
      f.IsAbout document :=
    Vocabulary.isAbout_of_mem_findingsAt hd (Json.at?_nil document) hf
  refine ⟨hfindings, fun files file base hloaded d hm => ?_⟩
  rw [Files.lintFile, hloaded] at hm
  rcases List.mem_append.1 hm with hm | hm
  · obtain ⟨f, hf, rfl⟩ := List.mem_map.1 hm
    exact pointsInto_of_isAbout file (hfindings f hf)
  · obtain ⟨⟨path, cause⟩, hfault, rfl⟩ := List.mem_map.1 hm
    exact pointsInto_of_mem_referenceFaults file hd hfault

/-- A document with an unknown keyword, an item that is no schema, and references that lead
nowhere or are none. -/
def misplaced : Json :=
  .obj [("a/b", .null), ("items", .arr [.obj [("$ref", .str "#/~2")], .bool true]),
    ("properties", .obj [("~", .obj [("$ref", .str "%")])])]

/-- A file with this document. -/
def misplacedFile : Files :=
  Files.oneFile <| "\x7b\"a/b\":null,\"items\":[\x7b\"$ref\":\"#/~2\"\x7d,true]," ++
    "\"properties\":\x7b\"~\":\x7b\"$ref\":\"%\"\x7d\x7d\x7d"

theorem diagnostics_located_misplaced :
    misplacedFile.loadJson "s.json".toList = .ok misplaced ∧
    (∀ f ∈ Vocabulary.standard.findings misplaced, f.IsAbout misplaced) ∧
    (∀ d ∈ (misplacedFile.lintFile "s.json".toList []).diagnostics, d.PointsInto misplaced) ∧
    (misplacedFile.lintFile "s.json".toList []).diagnostics.map (fun d => (d.code, d.path)) =
      [("W001", "/a~1b".toList), ("E002", "/items/1".toList),
        ("E002", "/properties/~0/$ref".toList), ("E003", "/items/0/$ref".toList),
        ("E004", "/properties/~0/$ref".toList)] := by
  have hloaded : misplacedFile.loadJson "s.json".toList = .ok misplaced := by cbv
  have hd : misplaced.WellFormed := by
    simp [misplaced, Json.WellFormed, Json.WellFormedMembers, Json.WellFormedItems]
  obtain ⟨hfindings, hdiagnostics⟩ := diagnostics_located hd
  refine ⟨hloaded, hfindings, hdiagnostics _ _ _ hloaded, ?_⟩
  rw [Files.lintFile, hloaded]
  cbv

end Lint

end JsonSchema
