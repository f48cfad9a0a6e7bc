import JsonSchema.Proofs.Constraint
import JsonSchema.Vocabulary.Standard
import Mathlib

/-!
# Checked places

The check of a document visits places as schemas, from the root down along the nested schemas that
the rules of keywords name. What it finds wrong at a visited place, it finds wrong with the
document, so the schemas at the visited places of an accepted document are as their rules want
them.

* `Vocabulary.mem_positionsFrom_iff` and `Vocabulary.mem_findingsAt_iff`: one step of a check.
* `Vocabulary.positionsFrom_induction` and `Vocabulary.findingsAt_induction`: induction on its way
  down.
* `Vocabulary.mem_findings_of_mem_positions`: what is found at a visited place.
* `Vocabulary.accepts_of_mem_positions`: visited schemas pass a check of their own.
* `Vocabulary.not_mem_steps_of_accepts`: no rule complains at a visited place.
* `Vocabulary.not_mem_minusOne_of_accepts`: the standard rules refuse -1 as a divisor.
-/

namespace JsonSchema

namespace Vocabulary

variable {voc : Vocabulary} {pointer place : List Char} {document schema v : Json}
  {members : List (String × Json)} {keyword : String} {value : Json} {rule : Rule}
  {complaint : Complaint} {f : Finding}

/-! ## One step of a check -/

/-- A schema that a rule has checked for a schema at a place, with its own place. -/
def Nests (voc : Vocabulary) (pointer : List Char) (schema : Json) (below : List Char)
    (nested : Json) : Prop :=
  ∃ keyword value rule tokens, (keyword, value) ∈ schema.members ∧
    voc.rule? keyword = some rule ∧
    .nested tokens nested ∈ (rule.run value schema.members).steps ∧
    below = tokens.foldl Pointer.child (Pointer.child pointer keyword.toList)

theorem Nests.size_lt {below : List Char} {nested : Json}
    (h : voc.Nests pointer schema below nested) : nested.size < schema.size := by
  obtain ⟨keyword, value, rule, tokens, hm, -, hs, -⟩ := h
  have h₁ := rule.within value schema.members tokens nested hs
  have h₂ : value.size ≤ Json.sizeMembers schema.members := Json.size_le_sizeMembers hm
  cases schema with
  | obj members =>
    rw [Json.size]
    exact Nat.lt_succ_of_le (Nat.le_trans h₁ h₂)
  | _ => cases hm

theorem not_nests_of_members_eq_nil (h : schema.members = []) (below : List Char) (nested : Json) :
    ¬ voc.Nests pointer schema below nested := by
  rintro ⟨keyword, value, rule, tokens, hm, -⟩
  rw [h] at hm
  cases hm

/-- A check visits a schema, and what it visits from the schemas nested in it. -/
theorem mem_positionsFrom_iff :
    (place, v) ∈ voc.positionsFrom pointer schema ↔ (place, v) = (pointer, schema) ∨
      ∃ below nested, voc.Nests pointer schema below nested ∧
        (place, v) ∈ voc.positionsFrom below nested := by
  cases schema with
  | obj members =>
    rw [positionsFrom, List.mem_cons]
    refine or_congr Iff.rfl ?_
    simp only [List.mem_flatMap, List.mem_attach, true_and, Subtype.exists, Prod.exists]
    constructor
    · rintro ⟨keyword, value, hm, hp⟩
      cases hr : voc.rule? keyword with
      | none => rw [hr] at hp; cases hp
      | some rule =>
        rw [hr] at hp
        simp only [List.mem_flatMap, List.mem_attach, true_and, Subtype.exists] at hp
        obtain ⟨step, hs, hp⟩ := hp
        cases step with
        | report complaint => cases hp
        | nested tokens nested =>
          exact ⟨_, nested, ⟨keyword, value, rule, tokens, hm, hr, hs, rfl⟩, hp⟩
    · rintro ⟨_, nested, ⟨keyword, value, rule, tokens, hm, hr, hs, rfl⟩, hp⟩
      refine ⟨keyword, value, hm, ?_⟩
      rw [hr]
      simp only [List.mem_flatMap, List.mem_attach, true_and, Subtype.exists]
      exact ⟨.nested tokens nested, hs, hp⟩
  | _ =>
    rw [positionsFrom, List.mem_singleton]
    · refine (or_iff_left ?_).symm
      rintro ⟨below, nested, hn, -⟩
      exact not_nests_of_members_eq_nil rfl _ _ hn
    · rintro _ ⟨⟩

/-- What a check finds in a schema of its own. -/
inductive Finds (voc : Vocabulary) (pointer : List Char) (schema : Json) : Finding → Prop
  | notASchema (h : schema.isObject = false) :
    Finds voc pointer schema ⟨pointer, .notASchema (NodeType.of schema)⟩
  | unknown {keyword : String} {value : Json} (hm : (keyword, value) ∈ schema.members)
      (hr : voc.rule? keyword = none) : Finds voc pointer schema ⟨pointer, .unknownKeyword keyword⟩
  | invalid {keyword : String} {value : Json} {rule : Rule} {complaint : Complaint}
      (hm : (keyword, value) ∈ schema.members) (hr : voc.rule? keyword = some rule)
      (hs : .report complaint ∈ (rule.run value schema.members).steps) :
    Finds voc pointer schema ⟨pointer, .invalidKeyword keyword complaint⟩
  | failed {keyword : String} {value : Json} {rule : Rule} {reason : String}
      (hm : (keyword, value) ∈ schema.members) (hr : voc.rule? keyword = some rule)
      (hf : (rule.run value schema.members).failure = some reason) :
    Finds voc pointer schema ⟨pointer, .ruleFailed keyword reason⟩

/-- A check finds what there is in the schema itself, and what it finds in the schemas nested in
it. -/
theorem mem_findingsAt_iff :
    f ∈ voc.findingsAt pointer schema ↔ voc.Finds pointer schema f ∨
      ∃ below nested, voc.Nests pointer schema below nested ∧ f ∈ voc.findingsAt below nested := by
  cases schema with
  | obj members =>
    rw [findingsAt]
    simp only [List.mem_flatMap, List.mem_attach, true_and, Subtype.exists, Prod.exists]
    constructor
    · rintro ⟨keyword, value, hm, hf⟩
      cases hr : voc.rule? keyword with
      | none =>
        rw [hr] at hf
        rw [List.mem_singleton.1 hf]
        exact .inl (.unknown hm hr)
      | some rule =>
        rw [hr] at hf
        simp only [List.mem_append, List.mem_flatMap, List.mem_attach, true_and, Subtype.exists,
          List.mem_map, Option.mem_toList] at hf
        rcases hf with ⟨step, hs, hf⟩ | ⟨reason, hf, rfl⟩
        · cases step with
          | report complaint =>
            rw [List.mem_singleton.1 hf]
            exact .inl (.invalid hm hr hs)
          | nested tokens nested =>
            exact .inr ⟨_, nested, ⟨keyword, value, rule, tokens, hm, hr, hs, rfl⟩, hf⟩
        · exact .inl (.failed hm hr hf)
    · rintro (hf | ⟨_, nested, ⟨keyword, value, rule, tokens, hm, hr, hs, rfl⟩, hf⟩)
      · cases hf with
        | notASchema h => cases h
        | unknown hm hr =>
          refine ⟨_, _, hm, ?_⟩
          rw [hr]
          exact List.mem_singleton_self _
        | invalid hm hr hs =>
          refine ⟨_, _, hm, ?_⟩
          rw [hr]
          simp only [List.mem_append, List.mem_flatMap, List.mem_attach, true_and, Subtype.exists]
          exact .inl ⟨_, hs, List.mem_singleton_self _⟩
        | failed hm hr hf =>
          refine ⟨_, _, hm, ?_⟩
          rw [hr]
          simp only [List.mem_append, List.mem_map, Option.mem_toList]
          exact .inr ⟨_, hf, rfl⟩
      · refine ⟨keyword, value, hm, ?_⟩
        rw [hr]
        simp only [List.mem_append, List.mem_flatMap, List.mem_attach, true_and, Subtype.exists]
        exact .inl ⟨.nested tokens nested, hs, hf⟩
  | _ =>
    rw [findingsAt]
    · constructor
      · intro hf
        rw [List.mem_singleton.1 hf]
        exact .inl (.notASchema rfl)
      · rintro (hf | ⟨below, nested, hn, -⟩)
        · cases hf with
          | notASchema h => exact List.mem_singleton_self _
          | unknown hm | invalid hm | failed hm => cases hm
        · exact absurd hn (not_nests_of_members_eq_nil rfl _ _)
    · rintro _ ⟨⟩

/-! ## Checks from the root down -/

/-- Induction along the schemas on the way to a visited place, the place itself first. -/
@[elab_as_elim]
theorem positionsFrom_induction
    {motive : (pointer : List Char) → (schema : Json) →
      (place, v) ∈ voc.positionsFrom pointer schema → Prop}
    (here : motive place v (mem_positionsFrom_iff.2 (.inl rfl)))
    (above : ∀ {pointer schema below nested} (hn : voc.Nests pointer schema below nested)
      (h : (place, v) ∈ voc.positionsFrom below nested), motive below nested h →
        motive pointer schema (mem_positionsFrom_iff.2 (.inr ⟨below, nested, hn, h⟩)))
    (h : (place, v) ∈ voc.positionsFrom pointer schema) : motive pointer schema h := by
  induction hsize : schema.size using Nat.strongRecOn generalizing pointer schema with
  | ind size ih =>
    rcases mem_positionsFrom_iff.1 h with he | ⟨below, nested, hn, hp⟩
    · cases he
      exact here
    · exact above hn hp (ih nested.size (hsize ▸ hn.size_lt) hp rfl)

/-- Induction along the schemas on the way to a schema with a finding, this schema first. -/
@[elab_as_elim]
theorem findingsAt_induction
    {motive : (pointer : List Char) → (schema : Json) → f ∈ voc.findingsAt pointer schema → Prop}
    (here : ∀ {pointer schema} (hf : voc.Finds pointer schema f),
      motive pointer schema (mem_findingsAt_iff.2 (.inl hf)))
    (above : ∀ {pointer schema below nested} (hn : voc.Nests pointer schema below nested)
      (h : f ∈ voc.findingsAt below nested), motive below nested h →
        motive pointer schema (mem_findingsAt_iff.2 (.inr ⟨below, nested, hn, h⟩)))
    (h : f ∈ voc.findingsAt pointer schema) : motive pointer schema h := by
  induction hsize : schema.size using Nat.strongRecOn generalizing pointer schema with
  | ind size ih =>
    rcases mem_findingsAt_iff.1 h with hf | ⟨below, nested, hn, hf⟩
    · exact here hf
    · exact above hn hf (ih nested.size (hsize ▸ hn.size_lt) hf rfl)

/-! ## Visited places -/

/-- What is found at a visited place is found where the check came from. -/
theorem mem_findingsAt_of_mem_positionsFrom (h : (place, v) ∈ voc.positionsFrom pointer schema)
    (hf : f ∈ voc.findingsAt place v) : f ∈ voc.findingsAt pointer schema := by
  induction h using positionsFrom_induction with
  | here => exact hf
  | above hn _ ih => exact mem_findingsAt_iff.2 (.inr ⟨_, _, hn, ih⟩)

theorem mem_findings_of_mem_positions (h : (place, v) ∈ voc.positions document)
    (hf : voc.Finds place v f) : f ∈ voc.findings document :=
  mem_findingsAt_of_mem_positionsFrom h (mem_findingsAt_iff.2 (.inl hf))

theorem root_mem_positions (voc : Vocabulary) (document : Json) :
    ([], document) ∈ voc.positions document :=
  mem_positionsFrom_iff.2 (.inl rfl)

/-! ## Accepted documents -/

theorem accepts_iff :
    voc.accepts document ↔ ∀ f ∈ voc.findings document, f.isFatal = false := by
  simp [accepts]

theorem isFatal_eq_of_cause {f f' : Finding} (h : f'.cause = f.cause) : f'.isFatal = f.isFatal := by
  unfold Finding.isFatal
  rw [h]

/-- The place of a schema does not matter for what is found in it. -/
theorem exists_cause_eq_of_mem_findingsAt (h : f ∈ voc.findingsAt pointer schema)
    (place : List Char) : ∃ f' ∈ voc.findingsAt place schema, f'.cause = f.cause := by
  induction h using findingsAt_induction generalizing place with
  | here hf =>
    refine ⟨⟨place, f.cause⟩, mem_findingsAt_iff.2 (.inl ?_), rfl⟩
    cases hf with
    | notASchema ho => exact .notASchema ho
    | unknown hm hr => exact .unknown hm hr
    | invalid hm hr hs => exact .invalid hm hr hs
    | failed hm hr hf => exact .failed hm hr hf
  | above hn _ ih =>
    obtain ⟨keyword, value, rule, tokens, hm, hr, hs, -⟩ := hn
    obtain ⟨f', hf', hcause⟩ :=
      ih (tokens.foldl Pointer.child (Pointer.child place keyword.toList))
    exact ⟨f', mem_findingsAt_iff.2
      (.inr ⟨_, _, ⟨keyword, value, rule, tokens, hm, hr, hs, rfl⟩, hf'⟩), hcause⟩

/-- **The schemas at the visited places of an accepted document are accepted.** -/
theorem accepts_of_mem_positions (ha : voc.accepts document)
    (hp : (place, v) ∈ voc.positions document) : voc.accepts v := by
  refine accepts_iff.2 fun f hf => ?_
  obtain ⟨f', hf', hcause⟩ := exists_cause_eq_of_mem_findingsAt hf place
  rw [← isFatal_eq_of_cause hcause]
  exact accepts_iff.1 ha f' (mem_findingsAt_of_mem_positionsFrom hp hf')

/-- Only objects stand at the visited places of an accepted document. -/
theorem isObject_of_mem_positions (ha : voc.accepts document)
    (hp : (place, v) ∈ voc.positions document) : v.isObject := by
  by_contra hobject
  cases accepts_iff.1 ha _ (mem_findings_of_mem_positions hp
    (.notASchema (Bool.eq_false_iff.2 hobject)))

/-- **The rules have no complaints at the visited places of an accepted document.** -/
theorem not_mem_steps_of_accepts (ha : voc.accepts document)
    (hp : (place, v) ∈ voc.positions document) (hm : (keyword, value) ∈ v.members)
    (hr : voc.rule? keyword = some rule) :
    .report complaint ∉ (rule.run value v.members).steps := by
  intro hs
  have := accepts_iff.1 ha _ (mem_findings_of_mem_positions hp (.invalid hm hr hs))
  cases this

end Vocabulary

/-! ## Standard rules -/

namespace Rule

variable {members : List (String × Json)}

/-- A divisor of -1 is not above zero. -/
theorem mem_steps_positive_minusOne :
    .report .notPositive ∈ (positive.run (.num .minusOne) members).steps := by
  have horder : Number.minusOne.toDouble.order (.zero false) ≠ .gt := by decide +kernel
  have htype : NodeType.of (.num .minusOne) ∈ NodeType.numeric := List.mem_cons_self
  simp [positive, typed, htype, horder]

end Rule

namespace Vocabulary

variable {document v : Json} {place : List Char}

/-- No divisor at a visited place of an accepted document is -1. -/
theorem not_mem_minusOne_of_accepts (ha : standard.accepts document)
    (hp : (place, v) ∈ standard.positions document) :
    ("divisibleBy", .num .minusOne) ∉ v.members := fun hm =>
  not_mem_steps_of_accepts ha hp hm rfl Rule.mem_steps_positive_minusOne

end Vocabulary

end JsonSchema
