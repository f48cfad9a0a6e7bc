import JsonSchema.Proofs.Lookups
import JsonSchema.Proofs.Subtree
import JsonSchema.Proofs.Uri
import JsonSchema.Proofs.Vocabulary
import Mathlib

/-!
# Remainders out of range

One remainder is out of range, that of the least number by -1. The check of a document refuses -1
as a divisor, but references may lead to places of the document that the check does not visit.

* `Registry.KeepsOnly`: the documents that a registry keeps are those that it could load, and
  those that were registered; every look-up leaves it so.
* `Validation.meets_visit_explained`: what an evaluation has come to when it ends with this fault.
* `Registry.hidesMinusOne_of_overflow`: a validation ends with this fault only because of a place
  that the check of a document does not visit.
-/

namespace JsonSchema

namespace Registry

variable {D : Json → Prop} {origin g : Registry} {locator : Reference} {d : Json}

/-! ## Where kept documents come from -/

/-- A registry fetches and checks as another one does, and what it keeps and what it can load has
a property. -/
structure KeepsOnly (D : Json → Prop) (origin g : Registry) : Prop where
  fetchers : g.fetchers = origin.fetchers
  vocabulary : g.vocabulary = origin.vocabulary
  loads : ∀ {locator d}, (origin.load locator).1 = .ok d → D d
  kept : ∀ {r d}, g.cached? r = some (.ok d) → D d

theorem accepts_of_checked {d' : Json} (h : g.checked locator d = .ok d') :
    g.vocabulary.accepts d' := by
  unfold checked at h
  split at h
  · rename_i ha
    cases h
    exact ha
  · cases h

/-- A document that is loaded is a schema. -/
theorem accepts_of_load (h : (g.load locator).1 = .ok d) : g.vocabulary.accepts d := by
  unfold load at h
  split at h
  · cases h
  split at h
  · cases h
  split at h
  · cases h
  · obtain ⟨document', -, hc⟩ := Uri.bind_eq_ok_iff.1 h
    exact accepts_of_checked hc

namespace KeepsOnly

theorem of_load (h : KeepsOnly D origin g) (hd : (g.load locator).1 = .ok d) : D d :=
  h.loads (load_congr h.fetchers h.vocabulary locator ▸ hd)

/-- Looking up a document gives one of those that are kept or can be loaded. -/
theorem of_document (h : KeepsOnly D origin g) (hd : (g.document locator).1 = .ok d) : D d := by
  cases hc : g.cached? locator with
  | some outcome =>
    rw [document_of_cached? hc] at hd
    exact h.kept (hc.trans (congrArg some hd))
  | none =>
    rw [document_of_not_cached hc] at hd
    exact h.of_load hd

theorem document (h : KeepsOnly D origin g) (locator : Reference) :
    KeepsOnly D origin (g.document locator).2 := by
  obtain ⟨hfetchers, hvocabulary⟩ := document_keeps g locator
  refine ⟨hfetchers.trans h.fetchers, hvocabulary.trans h.vocabulary, h.loads, fun {r d} hr => ?_⟩
  by_cases hsame : r.locator = locator.locator
  · rw [cached?_congr _ hsame, cached?_document] at hr
    exact h.of_document (Option.some.inj hr)
  cases hc : g.cached? locator with
  | some outcome =>
    rw [document_of_cached? hc] at hr
    exact h.kept hr
  | none =>
    obtain ⟨hcovers, hother⟩ := cached?_document_of_ne hc hsame
    by_cases hcov : g.Covers locator r
    · rw [hcovers hcov] at hr
      cases hk : g.cached? r with
      | some kept =>
        rw [hk] at hr
        exact h.kept (hk.trans hr)
      | none =>
        rw [hk] at hr
        exact h.of_load (Option.some.inj hr)
    · rw [hother hcov] at hr
      exact h.kept hr

theorem getSchema (h : KeepsOnly D origin g) (r : Reference) :
    KeepsOnly D origin (g.getSchema r).2 :=
  h.document r.toLocator

theorem of_getSchema (h : KeepsOnly D origin g) {r : Reference} {s : SchemaNode}
    (hs : (g.getSchema r).1 = .ok s) : D s.document := by
  rw [getSchema_fst] at hs
  obtain ⟨d, hd, hn⟩ := Uri.bind_eq_ok_iff.1 hs
  obtain ⟨pointer, -, rfl⟩ := nodeOf_eq_ok hn
  exact h.of_document hd

theorem find (h : KeepsOnly D origin g) (n : SchemaNode) (target : Target) :
    KeepsOnly D origin (g.find n target).2 := by
  unfold Registry.find
  split
  · exact h.getSchema _
  · exact h

theorem of_find (h : KeepsOnly D origin g) {n s : SchemaNode} {target : Target}
    (hs : (g.find n target).1 = .ok s) : D s.document := by
  unfold Registry.find at hs
  split at hs
  · exact h.of_getSchema hs
  · cases hs

/-- Registering adds no other document. -/
theorem register (h : KeepsOnly D origin g) {document : Json} (hd : D document) (r : Reference) :
    KeepsOnly D origin (g.register r document).2 where
  fetchers := (register_keeps g r document).1.trans h.fetchers
  vocabulary := (register_keeps g r document).2.trans h.vocabulary
  loads := h.loads
  kept {l d} hl := by
    rw [cached?_register] at hl
    split at hl
    · cases hl
      exact hd
    · exact h.kept hl

end KeepsOnly

end Registry

/-! ## Remainders -/

namespace Validation

open Evaluation

/-- A document holds -1 as a divisor at a place that its check does not visit. -/
def HidesMinusOne (document : Json) : Prop :=
  ∃ pointer v, document.at? pointer = some v ∧ ("divisibleBy", .num .minusOne) ∈ v.members ∧
    (pointer, v) ∉ Vocabulary.standard.positions document

/-- What is known of a fault: where a remainder was out of range, the least number was divided by a
-1 that a check did not come to. -/
def Explained (D : Json → Prop) (n : Instance) : Fault → Prop
  | .overflow _ => (∃ m ∈ n.subtree, m.value = .num .least) ∧ ∃ d, D d ∧ HidesMinusOne d
  | _ => True

theorem hidesMinusOne_of_judge {s : SchemaNode} {n : Instance} {c : Constraint}
    (ha : Vocabulary.standard.accepts s.document) (hc : c ∈ Constraint.forType s.raw n.type)
    (ho : c.judge n.value = .overflow) : n.value = .num .least ∧ HidesMinusOne s.document := by
  obtain ⟨hn, hm⟩ := Constraint.mem_minusOne_of_judge hc ho
  exact ⟨hn, s.pointer, s.raw, SchemaNode.at?_of_mem_members hm, hm, fun hp =>
    Vocabulary.not_mem_minusOne_of_accepts ha hp hm⟩

variable {D : Json → Prop} {origin : Registry}

/-- The faults of an evaluation are explained by the documents that it can come to. -/
theorem meets_visit_explained (hD : ∀ d, D d → Vocabulary.standard.accepts d) (root : Instance)
    (depth : Nat) {active : List Pair} {s : SchemaNode} {n : Instance} (hs : D s.document)
    (hn : n ∈ root.subtree) :
    Meets (Registry.KeepsOnly D origin) (visit depth active s n) (fun _ => True)
      (Explained D root) := by
  refine meets_visit_of_safe
    (P := fun p => D p.1.document ∧ p.2 ∈ root.subtree) trivial
    (fun _ _ he => he) (fun hp hc ho active => ?_) (fun {s n t n'} hp hl => ?_) depth ⟨hs, hn⟩
  · obtain ⟨hleast, hides⟩ := hidesMinusOne_of_judge (hD _ hp.1) hc ho
    exact ⟨⟨_, hp.2, hleast⟩, _, hp.1, hides⟩
  · refine .find fun g hg => ⟨hg.find s t, ?_⟩
    cases hf : (g.find s t).1 with
    | error cause => trivial
    | ok s' =>
      refine ⟨hg.of_find hf, ?_⟩
      cases hl with
      | constraint => exact hp.2
      | child hm => exact Instance.mem_subtree_of_mem_children hp.2 hm

end Validation

namespace Registry

open Validation

variable {D : Json → Prop} {origin g : Registry} {document value : Json} {r : Reference} {e : Fault}

/-- A report holds the result of the evaluation and the messages that it left. -/
theorem validate_fst (s : SchemaNode) (g : Registry) (value : Json) :
    (s.validate g value).1 = (State.validate {} g s (.root value)).1.map fun valid =>
      ⟨valid, (State.validate {} g s (.root value)).2.1.messages⟩ := by
  unfold SchemaNode.validate
  generalize State.validate {} g s (.root value) = outcome
  rfl

theorem validate_eq_error_iff {s : SchemaNode} :
    (s.validate g value).1 = .error e ↔ (State.validate {} g s (.root value)).1 = .error e := by
  rw [validate_fst]
  cases (State.validate {} g s (.root value)).1 with
  | error fault =>
    exact ⟨fun h => congrArg Except.error (Except.error.inj h),
      fun h => congrArg Except.error (Except.error.inj h)⟩
  | ok valid => exact ⟨nofun, nofun⟩

theorem validate_of_getSchema {s : SchemaNode} {g' : Registry} (h : g.getSchema r = (.ok s, g')) :
    g.validate r value = s.validate g' value := by
  simp only [validate, h]

theorem ok_of_registerRoot {locator : Reference}
    (h : (g.registerRoot document).1 = .ok locator) :
    rootLocator document = .ok locator ∧ (g.register locator document).1 = .ok () := by
  unfold registerRoot at h
  cases hl : rootLocator document with
  | error cause => rw [hl] at h; cases h
  | ok l =>
    simp only [hl] at h
    obtain ⟨_, hr, he⟩ := Uri.map_eq_ok_iff.1 h
    cases he
    exact ⟨rfl, hr⟩

theorem registerRoot_of_accepts {locator : Reference}
    (hroot : rootLocator document = .ok locator) (ha : g.vocabulary.accepts document) :
    (g.registerRoot document).1 = .ok locator := by
  simp only [registerRoot, hroot, register, checked, if_pos ha]
  cases locator.toLocator.secondLocator? document <;> rfl

/-- A root document is registered for its locator, and looked up there. -/
theorem validateRoot_of_registerRoot {locator : Reference}
    (h : (g.registerRoot document).1 = .ok locator) :
    g.validateRoot document value = ((g.register locator document).2.validate locator value).1 := by
  obtain ⟨hl, hr⟩ := ok_of_registerRoot h
  unfold validateRoot registerRoot
  simp only [hl, hr]
  rfl

theorem explained_of_validate (hD : ∀ d, D d → Vocabulary.standard.accepts d)
    (hg : KeepsOnly D origin g) (h : (g.validate r value).1 = .error e) :
    Explained D (.root value) e := by
  rcases hs : g.getSchema r with ⟨cause | s, g'⟩
  · simp only [validate, hs] at h
    obtain rfl := Except.error.inj h
    trivial
  · have hs' : D s.document := hg.of_getSchema (congrArg Prod.fst hs)
    have hg' : KeepsOnly D origin g' := by
      have hget := hg.getSchema r
      rwa [hs] at hget
    rw [validate_of_getSchema hs] at h
    have hmeets := Evaluation.Meets.validate {}
      (meets_visit_explained hD (.root value) _ hs' (Instance.mem_subtree_self _)) hg'
    rwa [validate_eq_error_iff.1 h] at hmeets

/-- **A validation divides the least number by -1 only at a place of a schema that the check does
not visit**: of the document itself, or of one that the fetchers give. -/
theorem hidesMinusOne_of_overflow {fetchers : List (List Char × Fetcher)} {active : List Pair}
    (h : (fresh fetchers .standard).validateRoot document value = .error (.overflow active)) :
    (∃ m ∈ (Instance.root value).subtree, m.value = .num .least) ∧
      ∃ schema, ((schema = document ∨ ∃ l, ((fresh fetchers .standard).load l).1 = .ok schema) ∧
        Vocabulary.standard.accepts schema) ∧ HidesMinusOne schema := by
  set origin := fresh fetchers .standard with horigin
  cases hr : (origin.registerRoot document).1 with
  | error cause =>
    unfold validateRoot at h
    rcases hx : origin.registerRoot document with ⟨outcome, g⟩
    rw [hx] at h hr
    obtain rfl : outcome = .error cause := hr
    cases h
  | ok locator =>
    rw [validateRoot_of_registerRoot hr] at h
    have hstart : KeepsOnly (fun d => (d = document ∨ ∃ l, (origin.load l).1 = .ok d) ∧
        Vocabulary.standard.accepts d) origin origin :=
      ⟨rfl, rfl, fun {l d} hd => ⟨.inr ⟨l, hd⟩, accepts_of_load hd⟩,
        fun hc => by simp [horigin, fresh, cached?] at hc⟩
    exact explained_of_validate (fun d hd => hd.2)
      (hstart.register ⟨.inl rfl, accepts_of_register (ok_of_registerRoot hr).2⟩ locator) h

theorem allowance_le_depthBound (g : Registry) (s : SchemaNode) (value : Json) :
    allowance ≤ depthBound g s value := by
  unfold depthBound
  exact Nat.le_add_left _ _

/-- A validation ends as the evaluation of the root does, however deep that may nest. -/
theorem exists_validateRoot_eq {g' : Registry} {s : SchemaNode} {P : Fault → Prop} {least : Nat}
    (hregister : g.registerRoot document = (.ok r, g')) (hget : g'.getSchema r = (.ok s, g'))
    (hleast : least ≤ allowance)
    (hrun : ∀ depth, ∃ e, P e ∧
      ((visit (depth + least) [] s (.root value)).run ⟨g', []⟩).1 = .error e) :
    ∃ e, P e ∧ g.validateRoot document value = .error e := by
  have hdepth := hleast.trans (allowance_le_depthBound g' s value)
  simp only [validateRoot, hregister, validate_of_getSchema hget, validate_eq_error_iff]
  unfold State.validate
  change least ≤ depthBound g' s (Instance.root value).value at hdepth
  generalize depthBound g' s (Instance.root value).value = bound at hdepth
  obtain ⟨depth, rfl⟩ := Nat.exists_eq_add_of_le' hdepth
  exact hrun depth

/-! ## A document with a hidden divisor -/

/-- A schema with the divisor -1. -/
def unvisited : Json :=
  .obj [("divisibleBy", .num .minusOne)]

/-- A document that refers to this schema at a place that its check does not visit. -/
def referring : Json :=
  .obj [("$ref", .str "#/default"), ("default", unvisited)]

/-- The node of the document. -/
def referringRoot : SchemaNode :=
  .of .empty referring []

/-- The node of the schema. -/
def unvisitedNode : SchemaNode :=
  .of .empty referring "/default".toList

/-- The registry that keeps the document. -/
def referringRegistry : Registry :=
  ⟨[], .standard, [([], .ok referring)], []⟩

open Validation Validation.Evaluation

theorem visit_unvisitedNode (depth : Nat) (active : List Pair) (p : Progress)
    (h : pairOf unvisitedNode (.root (.num .least)) ∉ active) :
    ((visit (depth + 1) active unvisitedNode (.root (.num .least))).run p).1 =
      .error (.overflow (pairOf unvisitedNode (.root (.num .least)) :: active)) := by
  rw [visit_of_notMem h]
  rfl

theorem visit_referringRoot (depth : Nat) : ∃ e, (∃ active, e = .overflow active) ∧
    ((visit (depth + 2) [] referringRoot (.root (.num .least))).run ⟨referringRegistry, []⟩).1 =
      .error e := by
  have hconstraints : Constraint.forType referringRoot.raw (Instance.root (.num .least)).type =
      [.ref (.str "#/default")] := rfl
  have hfind : referringRegistry.find referringRoot (.referenced (.str "#/default")) =
      (.ok unvisitedNode, referringRegistry) := by
    cbv
  have hnode := visit_unvisitedNode depth [pairOf referringRoot (.root (.num .least))]
    ⟨referringRegistry, []⟩ (by decide)
  rw [visit_of_notMem (by simp), hconstraints]
  simp only [List.map_cons, List.map_nil, all, passes, Constraint.judge, run_bind, run_find, hfind]
  rcases hx : (visit (depth + 1) [pairOf referringRoot (.root (.num .least))] unvisitedNode
    (.root (.num .least))).run ⟨referringRegistry, []⟩ with ⟨result, p⟩
  rw [hx] at hnode
  obtain rfl := hnode
  simp only [Except.mapError, hx]
  exact ⟨_, ⟨_, rfl⟩, rfl⟩

/-- The document is a schema, and its validation comes to the remainder that is out of range. -/
theorem validateRoot_referring : Vocabulary.standard.accepts referring ∧
    ∃ active, (fresh [] .standard).validateRoot referring (.num .least) =
      .error (.overflow active) := by
  have hregister : (fresh [] .standard).registerRoot referring =
      (.ok .empty, referringRegistry) := by
    cbv
  have hget : referringRegistry.getSchema .empty = (.ok referringRoot, referringRegistry) := by
    cbv
  obtain ⟨e, ⟨active, rfl⟩, he⟩ := exists_validateRoot_eq hregister hget
    (by decide : 2 ≤ allowance) visit_referringRoot
  exact ⟨by cbv, active, he⟩

theorem hidesMinusOne_referring :
    (∃ m ∈ (Instance.root (.num .least)).subtree, m.value = .num .least) ∧
      ∃ schema, ((schema = referring ∨ ∃ l, ((fresh [] .standard).load l).1 = .ok schema) ∧
        Vocabulary.standard.accepts schema) ∧ HidesMinusOne schema := by
  obtain ⟨-, active, h⟩ := validateRoot_referring
  exact hidesMinusOne_of_overflow h

/-- **A schema can make a validation come to the remainder that is out of range.** -/
theorem overflow_of_referring : Vocabulary.standard.accepts referring ∧
    ¬ ∀ active, (fresh [] .standard).validateRoot referring (.num .least) ≠
      .error (.overflow active) := by
  obtain ⟨ha, active, h⟩ := validateRoot_referring
  exact ⟨ha, fun hnever => hnever active h⟩

end Registry

end JsonSchema
