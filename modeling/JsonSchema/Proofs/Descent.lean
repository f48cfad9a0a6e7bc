import JsonSchema.Proofs.Calls
import JsonSchema.Proofs.Targets
import Mathlib

/-!
# Evaluations without references

Without references, an evaluation goes down its document. It comes to places that the check of the
document visits as schemas, and finds them in the registry that keeps the document. The values grow
smaller on the way, so the evaluation ends within its bound.

* `Registry.find_below`: a look-up below a node of a document that is kept.
* `Registry.IsVisited`: nodes at the places that the check of a document visits.
* `Registry.find_of_isVisited`: one look-up leads from such a node to another one.
* `Registry.validateRoot_of_every`: a validation without references has a report.
-/

namespace JsonSchema

open Validation

namespace Registry

variable {g : Registry} {n q : Reference} {d v w value : Json} {s s' : SchemaNode} {t : Target}
  {tokens : List (List Char)}

/-! ## Look-ups -/

/-- **A look-up below a node of a document that is kept** gives the node that the names lead to. -/
theorem find_below (hn : n.IsStable) (hc : g.cached? n = some (.ok d)) (hs : s.locator = n)
    (hat : d.at? s.pointer = some v) (hw : v.walk? tokens = some w) :
    g.find s (.below tokens) = (.ok (.of n d (tokens.foldl Pointer.child s.pointer)), g) := by
  subst hs
  exact getSchema_withPointer hn hc ((Json.at?_foldl_child hat tokens).trans hw)

/-! ## Places that a check visits -/

/-- A node of a document at a place that its check visits as a schema. -/
structure IsVisited (n : Reference) (d : Json) (s : SchemaNode) : Prop where
  locator : s.locator = n
  document : s.document = d
  place : d.at? s.pointer = some s.raw
  visited : (s.pointer, s.raw) ∈ Vocabulary.standard.positions d

theorem isVisited_root (n : Reference) (d : Json) : IsVisited n d (.of n d []) :=
  ⟨rfl, rfl, rfl, Vocabulary.root_mem_positions _ d⟩

theorem IsVisited.exists_walk? (h : IsVisited n d s) :
    ∃ tokens, d.walk? tokens = some s.raw := by
  obtain ⟨tokens, -, hw⟩ := Option.bind_eq_some_iff.1 h.place
  exact ⟨tokens, hw⟩

/-- **One look-up leads to a visited place further down.** -/
theorem find_of_isVisited (hn : n.IsStable) (hc : g.cached? n = some (.ok d))
    (hs : IsVisited n d s) (hrefs : d.Every fun name _ => name ≠ "$ref")
    (ht : s.raw.Checks t) :
    ∃ s', g.find s t = (.ok s', g) ∧ IsVisited n d s' ∧ s'.raw.size < s.raw.size := by
  cases t with
  | below tokens =>
    obtain ⟨v, hv, hnests⟩ := ht
    have hat := (Json.at?_foldl_child hs.place tokens).trans hv
    have hraw := SchemaNode.raw_of_at? n hat
    refine ⟨_, find_below hn hc hs.locator hs.place hv, ⟨rfl, rfl, ?_, ?_⟩, ?_⟩
    · rw [hraw]
      exact hat
    · rw [hraw]
      exact (hnests s.pointer).mem_positions hs.visited
    · rw [hraw]
      exact (hnests s.pointer).size_lt
  | referenced value =>
    obtain ⟨tokens, hwalk⟩ := hs.exists_walk?
    exact absurd rfl ((hrefs.walk? hwalk).of_mem ht)

/-- The schema at a visited place of an accepted document is an object. -/
theorem IsVisited.isObject (h : IsVisited n d s) (ha : Vocabulary.standard.accepts d) :
    s.raw.isObject :=
  Vocabulary.isObject_of_mem_positions ha h.visited

/-! ## Evaluations -/

/-- The bound on the nesting of an evaluation exceeds the size of the document. -/
theorem size_lt_depthBound (g : Registry) (s : SchemaNode) (v : Json) :
    s.document.size < depthBound g s v := by
  simp only [depthBound]
  set places := g.size + s.document.size + 1 with hplaces
  have hle : places ≤ places * places * v.size :=
    (Nat.le_mul_of_pos_right places (by omega)).trans (Nat.le_mul_of_pos_right _ v.size_pos)
  omega

/-- **An evaluation at a visited place comes to an end**, and leaves the registry as it is. -/
theorem meets_visit_of_isVisited (hw : d.WellFormed) (ha : Vocabulary.standard.accepts d)
    (hrefs : d.Every fun name _ => name ≠ "$ref") (hn : n.IsStable)
    (hc : g.cached? n = some (.ok d)) {depth : Nat} (active : List Pair) (m : Instance)
    (hs : IsVisited n d s) (hdepth : s.raw.size ≤ depth) :
    Evaluation.Meets (· = g) (visit depth active s m) (fun _ => True) fun _ => False := by
  refine Evaluation.meets_visit_of_safe_within
    (P := fun depth p => IsVisited n d p.1 ∧ p.1.raw.size ≤ depth)
    (fun hp => absurd hp.2 (Nat.not_le.2 (Json.size_pos _))) (fun _ _ => id)
    (fun hp hm ho _ => ?_) (fun {depth s m t m'} hp hl => ?_) depth ⟨hs, hdepth⟩
  · exact Vocabulary.not_mem_minusOne_of_accepts ha hp.1.visited
      (Constraint.mem_minusOne_of_judge hm ho).2
  · obtain ⟨tokens, hwalk⟩ := hp.1.exists_walk?
    have hchecks := hl.checks (hw.walk? hwalk)
    obtain ⟨s', hfind, hs', hlt⟩ := find_of_isVisited hn hc hp.1 hrefs hchecks
    refine .find fun g' hg' => ?_
    obtain rfl : g' = g := hg'
    rw [hfind]
    exact ⟨rfl, hs', Nat.le_of_lt_succ (hlt.trans_le hp.2)⟩

/-- An evaluation comes to visited places only. -/
theorem isVisited_of_reaches (hw : d.WellFormed) (hrefs : d.Every fun name _ => name ≠ "$ref")
    (hn : n.IsStable) (hc : g.cached? n = some (.ok d)) {start p : Judgement}
    (hs : IsVisited n d start.1) (h : Reaches g.Sees start p) : IsVisited n d p.1 := by
  induction h with
  | refl => exact hs
  | tail _ hleads ih =>
    obtain ⟨hl, hsees⟩ := hleads
    obtain ⟨tokens, hwalk⟩ := ih.exists_walk?
    have hchecks := hl.checks (hw.walk? hwalk)
    obtain ⟨s', hfind, hs', -⟩ := find_of_isVisited hn hc ih hrefs hchecks
    rw [Sees, seen?, hfind] at hsees
    cases hsees
    exact hs'

/-- **Only a reference can break a validation.** A document that is accepted as a root and holds no
references gives a report for every value. The evaluation leaves the registry as it is, and all
schemas that it comes to are objects at places of the document that its check visits. -/
theorem validateRoot_of_every (hvoc : g.vocabulary = .standard) (hw : d.WellFormed)
    (hreg : (g.registerRoot d).1 = .ok q) (hrefs : d.Every fun name _ => name ≠ "$ref") :
    (∃ report, g.validateRoot d value = .ok report) ∧
      let g' := (g.registerRoot d).2
      (g'.validate q value).2 = g' ∧ ∃ s, (g'.getSchema q).1 = .ok s ∧
        ∀ p, Reaches g'.Sees (s, .root value) p → p.1.document = d ∧ p.1.raw.isObject ∧
          (p.1.pointer, p.1.raw) ∈ Vocabulary.standard.positions d := by
  obtain ⟨hq, hregister⟩ := ok_of_registerRoot hreg
  have ha : Vocabulary.standard.accepts d := hvoc ▸ accepts_of_register hregister
  have hn := isStable_of_rootLocator hq
  have hc := cached?_register_self hregister
  rw [hn.toLocator] at hc
  rw [validateRoot_of_registerRoot hreg, registerRoot_eq hq]
  simp only
  generalize (g.register q d).2 = g' at hc ⊢
  have hget := getSchema_of_isStable hn hc
  have hroot := isVisited_root q d
  have hmeets := meets_visit_of_isVisited hw ha hrefs hn hc [] (.root value) hroot
    (size_lt_depthBound g' (.of q d []) value).le
  rw [validate_of_getSchema hget, hget]
  refine ⟨?_, Evaluation.Meets.validate_registry {} hmeets rfl, _, rfl, fun p hp => ?_⟩
  · cases hreport : ((SchemaNode.of q d []).validate g' value).1 with
    | ok report => exact ⟨report, rfl⟩
    | error e =>
      have hresult := Evaluation.Meets.validate {} hmeets rfl
      rw [validate_eq_error_iff.1 hreport] at hresult
      exact hresult.elim
  · have hp := isVisited_of_reaches hw hrefs hn hc hroot hp
    exact ⟨hp.document, hp.isObject ha, hp.visited⟩

/-- A document with schemas below several keywords, under a name with signs that are escaped. -/
def unreferring : Json :=
  .obj [("id", .str "s.json"),
    ("properties", .obj [("a/b %", .obj [
      ("type", .arr [.str "null", .obj [("enum", .arr [.bool true])]])])]),
    ("additionalProperties", .obj [("extends", .arr [.obj []])])]

theorem validateRoot_unreferring : ((fresh [] .standard).registerRoot unreferring).1 = .ok .empty ∧
    ∃ report, (fresh [] .standard).validateRoot unreferring (.obj [("a/b %", .bool true)]) =
      .ok report := by
  have hwf : unreferring.WellFormed := by
    simp [unreferring, Json.WellFormed, Json.WellFormedMembers, Json.WellFormedItems]
  have hrefs : unreferring.Every fun name _ => name ≠ "$ref" := by
    simp [unreferring, Json.Every, Json.EveryMember, Json.EveryItem]
  have haccepts : Vocabulary.standard.accepts unreferring := by decide +kernel
  have hroot : rootLocator unreferring = .ok .empty := by cbv
  have hreg := registerRoot_of_accepts (g := fresh [] .standard) hroot haccepts
  exact ⟨hreg, (validateRoot_of_every rfl hwf hreg hrefs).1⟩

end Registry

end JsonSchema
