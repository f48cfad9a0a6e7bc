import JsonSchema.Proofs.Evaluation
import JsonSchema.Proofs.Registry
import Mathlib

/-!
# The meaning of validation

Schemas may refer to each other in circles, so validity is no recursion over schemas. It is the
greatest relation between schemas and nodes of instances in which a related pair fulfils its
demands: `demands` gives the pairs whose demands are fulfilled by the pairs of a set, and `valid`
is its greatest fixed point. An evaluation takes a pair that is being evaluated for valid.

* `validUpTo` is validity with some pairs taken for granted.
* `mem_validUpTo_of_mem_demands`: a pair may be taken for granted while its own demands are checked.
* `meets_visit`: what the outcome of an evaluation says, by induction on the nesting.
* `validate_iff_mem_valid`: an evaluation that ends decides validity.
-/

namespace JsonSchema

/-- No array of types that a value disallows, at any place of a document, holds a schema. -/
def Json.DisallowsNoSchema (document : Json) : Prop :=
  ∀ pointer v items, document.at? pointer = some v → ("disallow", .arr items) ∈ v.members →
    ∀ item ∈ items, item.isObject = false

namespace Verdict

/-- A verdict other than that schemas are disallowed, fulfilled by the places at which schemas
accept. -/
def Approves (accepts : Target → Prop) : Verdict → Prop
  | passed => True
  | deferred target => accepts target
  | anyOf targets _ => ∃ t ∈ targets, accepts t
  | failed _ | noneOf _ _ | overflow => False

variable {accepts A R : Target → Prop} {verdict : Verdict}

theorem Approves.mono {accepts' : Target → Prop} (h : verdict.Approves accepts)
    (ha : ∀ t ∈ verdict.targets, accepts t → accepts' t) : verdict.Approves accepts' := by
  cases verdict with
  | passed => trivial
  | deferred target => exact ha target (List.mem_singleton_self _) h
  | anyOf targets otherwise =>
    obtain ⟨t, ht, hA⟩ := h
    exact ⟨t, ht, ha t ht hA⟩
  | failed violations => exact h
  | noneOf targets otherwise => exact h
  | overflow => exact h

theorem Favours.approves (h : verdict.Favours A R) (hn : ¬ verdict.IsNegative) :
    verdict.Approves A := by
  cases verdict with
  | noneOf targets otherwise => exact absurd trivial hn
  | _ => exact h

theorem Refuses.not_approves (h : verdict.Refuses A R) (hn : ¬ verdict.IsNegative)
    (hR : ∀ t, R t → ¬ accepts t) : ¬ verdict.Approves accepts := by
  cases verdict with
  | passed => exact h.elim
  | failed violations => exact id
  | deferred target => exact hR target h
  | anyOf targets otherwise =>
    rintro ⟨t, ht, hA⟩
    exact hR t (h t ht) hA
  | noneOf targets otherwise => exact absurd trivial hn
  | overflow => exact h.elim

end Verdict

namespace Validation

open Evaluation

variable {g : Registry}

/-! ## Validity -/

/-- A schema at a place accepts a node, by the pairs of a set; a place without a schema does
not. -/
def AcceptsAt (g : Registry) (R : Set Judgement) (s : SchemaNode) (n : Instance) (t : Target) :
    Prop :=
  ∃ s', g.seen? s t = some s' ∧ (s', n) ∈ R

/-- The pairs whose demands are fulfilled by the pairs of a set: the node passes the constraints of
the schema that concern its type, and every child is accepted at every place for it. -/
def demands (g : Registry) : Set Judgement →o Set Judgement where
  toFun R := {p |
    (∀ c ∈ Constraint.forType p.1.raw p.2.type,
      (c.judge p.2.value).Approves (AcceptsAt g R p.1 p.2)) ∧
    ∀ child ∈ p.2.children, ∀ t ∈ (Routing.of p.2.type p.1.raw).childTargets p.1 child,
      AcceptsAt g R p.1 child t}
  monotone' := by
    rintro R R' hR p ⟨hc, hd⟩
    refine ⟨fun c hm => (hc c hm).mono ?_, fun child hm t ht => ?_⟩
    · rintro t - ⟨s', hs, hp⟩
      exact ⟨s', hs, hR hp⟩
    · obtain ⟨s', hs, hp⟩ := hd child hm t ht
      exact ⟨s', hs, hR hp⟩

/-- The valid pairs: the greatest set of pairs that fulfil their demands among themselves. -/
def valid (g : Registry) : Set Judgement :=
  (demands g).gfp

/-- The pairs that fulfil their demands among themselves and some assumed pairs. -/
def validUpTo (g : Registry) (assumed : Set Judgement) : Set Judgement :=
  OrderHom.gfp (OrderHom.const _ assumed ⊔ demands g)

variable {A : Set Judgement} {p : Judgement}

theorem mem_validUpTo_iff :
    p ∈ validUpTo g A ↔ p ∈ A ∨ p ∈ demands g (validUpTo g A) := by
  have h : A ∪ demands g (validUpTo g A) = validUpTo g A :=
    OrderHom.map_gfp (OrderHom.const _ A ⊔ demands g)
  rw [← Set.mem_union, h]

/-- **A pair may be assumed while its own demands are checked.** -/
theorem mem_validUpTo_of_mem_demands (h : p ∈ demands g (validUpTo g (insert p A))) :
    p ∈ validUpTo g A := by
  have hle : validUpTo g (insert p A) ≤ validUpTo g A := by
    refine OrderHom.le_gfp _ fun q hq => ?_
    rcases mem_validUpTo_iff.1 hq with (rfl | hA) | hd
    · exact .inr h
    · exact .inl hA
    · exact .inr hd
  exact mem_validUpTo_iff.2 (.inr ((demands g).monotone hle h))

theorem mem_demands_of_mem_valid (h : p ∈ valid g) : p ∈ demands g (valid g) := by
  rwa [valid, OrderHom.map_gfp]

theorem validUpTo_empty : validUpTo g ∅ = valid g := by
  unfold validUpTo valid
  congr 1
  ext R q
  simp

/-! ## Constraints without negation -/

/-- Without disallowed schemas no verdict is negative. -/
theorem not_isNegative_of_mem {s : SchemaNode} {v : Json} {t : NodeType} {c : Constraint}
    (h : s.document.DisallowsNoSchema) (hc : c ∈ Constraint.forType s.raw t) :
    ¬ (c.judge v).IsNegative := by
  intro hn
  obtain ⟨union, rfl, hs⟩ := Constraint.exists_disallow_of_isNegative hn
  obtain ⟨keyword, value, hm, rfl, rfl⟩ := Constraint.exists_member_of_mem (List.mem_filter.1 hc).1
  obtain ⟨i, hi⟩ := List.exists_mem_of_ne_nil _ hs
  obtain ⟨items, item, rfl, hitem, ho⟩ := TypeUnion.exists_of_mem_schemas hi
  rw [h _ _ _ (SchemaNode.at?_of_mem_members hm) hm item (List.mem_of_getElem? hitem)] at ho
  cases ho

/-! ## Evaluations -/

/-- The pairs that are being evaluated, each with its text among the active ones; a node with the
pointer of the current one is the current one. -/
structure Tracks (g : Registry) (start : Judgement) (active : List Pair) (n : Instance)
    (assumed : Set Judgement) : Prop where
  assumed_of_mem : ∀ pair ∈ active, ∃ p ∈ assumed, pairOf p.1 p.2 = pair
  reached : ∀ p ∈ assumed, Reaches g.Sees start p
  above : ∀ p ∈ assumed, p.2 = n ∨ p.2.pointer.length < n.pointer.length

variable {start : Judgement} {active : List Pair} {s : SchemaNode} {n : Instance}

theorem Tracks.insert (h : Tracks g start active n A) (hr : Reaches g.Sees start (s, n)) :
    Tracks g start (pairOf s n :: active) n (Insert.insert (s, n) A) where
  assumed_of_mem pair hp := by
    rcases List.mem_cons.1 hp with rfl | hp
    · exact ⟨(s, n), Set.mem_insert _ _, rfl⟩
    · obtain ⟨p, hA, he⟩ := h.assumed_of_mem pair hp
      exact ⟨p, Set.mem_insert_of_mem _ hA, he⟩
  reached p hp := by
    rcases Set.mem_insert_iff.1 hp with rfl | hA
    · exact hr
    · exact h.reached p hA
  above p hp := by
    rcases Set.mem_insert_iff.1 hp with rfl | hA
    · exact .inl rfl
    · exact h.above p hA

theorem pointer_lt_of_mem_children {n child : Instance} (h : child ∈ n.children) :
    n.pointer.length < child.pointer.length := by
  obtain ⟨part, -, rfl⟩ := List.mem_map.1 h
  simp [Instance.child]

theorem Tracks.child {child : Instance} (h : Tracks g start active n A)
    (hm : child ∈ n.children) : Tracks g start active child A where
  assumed_of_mem := h.assumed_of_mem
  reached := h.reached
  above p hp := by
    have hlt := pointer_lt_of_mem_children hm
    rcases h.above p hp with rfl | ha
    · exact .inr hlt
    · exact .inr (ha.trans hlt)

/-- Reached schemas with the same reference are the same node. -/
def Identified (g : Registry) (start : Judgement) : Prop :=
  ∀ p q, Reaches g.Sees start p → Reaches g.Sees start q →
    p.1.reference.same q.1.reference → p.1 = q.1

/-- An active pair is assumed. -/
theorem Tracks.mem_of_mem (h : Tracks g start active n A) (hid : Identified g start)
    (hr : Reaches g.Sees start (s, n)) (hm : pairOf s n ∈ active) : (s, n) ∈ A := by
  obtain ⟨⟨s', n'⟩, hA, he⟩ := h.assumed_of_mem _ hm
  obtain ⟨hs, hn⟩ := Prod.mk.inj he
  have hn' : n' = n := by
    rcases h.above _ hA with he | hlt
    · exact he
    · exact absurd (congrArg List.length hn) (Nat.ne_of_lt hlt)
  have hs' : s' = s := hid _ _ (h.reached _ hA) hr (decide_eq_true hs)
  rwa [← hs', ← hn']

theorem meets_find (s : SchemaNode) (t : Target) :
    Meets g.Replays (find s t) (fun s' => g.seen? s t = some s') fun _ => True := by
  refine .find fun g' hg => ?_
  obtain ⟨hs, hg'⟩ := hg.find s t
  refine ⟨hg', ?_⟩
  rw [← hs]
  cases (g'.find s t).1 with
  | error cause => trivial
  | ok s' => rfl

theorem not_acceptsAt {R : Set Judgement} {t : Target}
    (h : ∃ s', g.seen? s t = some s' ∧ (s', n) ∉ R) : ¬ AcceptsAt g R s n t := by
  rintro ⟨s₁, hs₁, hR⟩
  obtain ⟨s₂, hs₂, hn⟩ := h
  obtain rfl : s₁ = s₂ := Option.some.inj (hs₁.symm.trans hs₂)
  exact hn hR

section Parts

variable {eval : SchemaNode → Instance → Evaluation Bool} {R R' : Set Judgement}

/-- The outcome of a constraint, if pairs that pass are in one set and other pairs are not in
another set. -/
theorem meets_constraint (active : List Pair) {c : Constraint}
    (hpos : ¬ (c.judge n.value).IsNegative)
    (heval : ∀ t ∈ (c.judge n.value).targets, ∀ s', g.seen? s t = some s' →
      Meets g.Replays (eval s' n) (Judges ((s', n) ∈ R) ((s', n) ∉ R')) fun _ => True) :
    Meets g.Replays (passes eval active s n c)
      (Judges ((c.judge n.value).Approves (AcceptsAt g R s n))
        (¬ (c.judge n.value).Approves (AcceptsAt g R' s n))) fun _ => True := by
  refine (meets_passes (fun _ _ => trivial) (fun _ => trivial) (fun t _ => meets_find s t)
    heval).mono (fun b hb => ?_) fun _ he => he
  refine hb.mono (fun hF => hF.approves hpos) fun hR => hR.not_approves hpos ?_
  exact fun t => not_acceptsAt

/-- The outcome of a child, in the same way. -/
theorem meets_child {routing : Routing} {child : Instance}
    (heval : ∀ t ∈ routing.childTargets s child, ∀ s', g.seen? s t = some s' →
      Meets g.Replays (eval s' child) (Judges ((s', child) ∈ R) ((s', child) ∉ R'))
        fun _ => True) :
    Meets g.Replays (childPasses eval s routing child)
      (Judges (∀ t ∈ routing.childTargets s child, AcceptsAt g R s child t)
        (¬ ∀ t ∈ routing.childTargets s child, AcceptsAt g R' s child t)) fun _ => True := by
  refine (meets_childPasses (fun t _ => meets_find s t) heval).mono (fun b hb => ?_)
    fun _ he => he
  refine hb.mono id ?_
  rintro ⟨t, ht, hF⟩ hR
  exact not_acceptsAt hF (hR t ht)

end Parts

/-- **What the outcome of an evaluation says.** A pair that passes is valid up to the assumed
pairs, and a pair that does not pass is not valid. -/
theorem meets_visit (hid : Identified g start)
    (hneg : ∀ p, Reaches g.Sees start p → p.1.document.DisallowsNoSchema) (depth : Nat) :
    ∀ {active : List Pair} {s : SchemaNode} {n : Instance} {A : Set Judgement},
      Tracks g start active n A → Reaches g.Sees start (s, n) →
      Meets g.Replays (visit depth active s n)
        (Judges ((s, n) ∈ validUpTo g A) ((s, n) ∉ valid g)) fun _ => True := by
  induction depth with
  | zero => exact fun _ _ => .throw trivial
  | succ depth ih =>
    intro active s n A ht hr
    by_cases hm : pairOf s n ∈ active
    · rw [visit_of_mem hm]
      exact .pure ⟨fun _ => mem_validUpTo_iff.2 (.inl (ht.mem_of_mem hid hr hm)), nofun⟩
    have ht' := ht.insert hr
    have hconstraints := Meets.all fun c hc =>
      meets_constraint (pairOf s n :: active) (not_isNegative_of_mem (hneg _ hr) hc)
        fun t htarget s' hs => ih ht' (hr.tail (.looksUp (.constraint hc htarget) hs))
    have hchildren := Meets.all fun child hchild =>
      meets_child fun t htarget s' hs =>
        ih (ht'.child hchild) (hr.tail (.looksUp (.child hchild htarget) hs))
    rw [visit_of_notMem hm]
    refine hconstraints.bind fun passed hpassed => ?_
    cases passed with
    | false =>
      obtain ⟨c, hc, hF⟩ := hpassed.2 rfl
      exact .pure ⟨nofun, fun _ hv => hF ((mem_demands_of_mem_valid hv).1 c hc)⟩
    | true =>
      refine hchildren.mono (fun b hb => hb.mono (fun hT => ?_) ?_) fun _ he => he
      · exact mem_validUpTo_of_mem_demands ⟨hpassed.1 rfl, hT⟩
      · rintro ⟨child, hchild, hF⟩ hv
        exact hF ((mem_demands_of_mem_valid hv).2 child hchild)

/-- **An evaluation that ends decides validity**, in a registry without fetchers whose documents
disallow no schemas. A pair that is being evaluated may be taken for valid. -/
theorem validate_iff_mem_valid {v : Json} {b : Bool} (offline : g.fetchers = [])
    (kept : ∀ key document, (key, .ok document) ∈ g.cache → document.DisallowsNoSchema)
    (own : s.document.DisallowsNoSchema) (hid : Identified g (s, .root v))
    (h : (State.validate {} g s (.root v)).1 = .ok b) : b = true ↔ (s, .root v) ∈ valid g := by
  have hneg : ∀ p, Reaches g.Sees (s, .root v) p → p.1.document.DisallowsNoSchema := by
    intro p hp
    induction hp with
    | refl => exact own
    | tail _ hl _ =>
      cases hl with
      | looksUp _ hs =>
        obtain ⟨key, hk⟩ := Registry.exists_mem_cache_of_seen? offline hs
        exact kept key _ hk
  have ht : Tracks g (s, .root v) [] (.root v) ∅ := ⟨nofun, nofun, nofun⟩
  have hrun := Meets.validate {} (meets_visit hid hneg _ ht .refl)
    (.refl offline)
  rw [h, validUpTo_empty] at hrun
  exact ⟨hrun.1, fun hv => by_contra fun hb => hrun.2 (Bool.eq_false_iff.2 hb) hv⟩

/-- A schema that refers to itself. -/
def circular : Json :=
  .obj [("type", .str "null"), ("$ref", .str "#")]

/-- The root of the circular schema. -/
def circularRoot : SchemaNode :=
  .of .empty circular []

/-- A registry that keeps the circular schema only. -/
def circularRegistry : Registry :=
  ⟨[], ⟨[]⟩, [([], .ok circular)], []⟩

theorem members_eq_nil_of_walk?_str {s : String} {tokens : List (List Char)} {v : Json}
    (h : (Json.str s).walk? tokens = some v) : v.members = [] := by
  cases tokens with
  | nil => cases h; rfl
  | cons t rest => cases h

theorem disallowsNoSchema_circular : circular.DisallowsNoSchema := by
  intro pointer v items hat hm
  obtain ⟨tokens, -, hw⟩ := Option.bind_eq_some_iff.1 hat
  cases tokens with
  | nil =>
    cases hw
    simp [circular, Json.members] at hm
  | cons t rest =>
    simp only [circular, Json.walk?, Json.below?, Json.lookup] at hw
    have hv : v.members = [] := by
      split at hw
      · exact members_eq_nil_of_walk?_str hw
      · split at hw
        · exact members_eq_nil_of_walk?_str hw
        · cases hw
    rw [hv] at hm
    cases hm

theorem seen?_circularRoot :
    circularRegistry.seen? circularRoot (.referenced (.str "#")) = some circularRoot := by
  cbv

theorem eq_of_reaches_circular {p : Judgement}
    (h : Reaches circularRegistry.Sees (circularRoot, .root .null) p) :
    p = (circularRoot, .root .null) := by
  induction h with
  | refl => rfl
  | tail _ hl ih =>
    subst ih
    cases hl with
    | @looksUp _ _ _ _ t hlook hs =>
      cases hlook with
      | child hm _ => cases hm
      | @constraint c _ hc ht =>
        have hc' : c ∈ [Constraint.type ⟨["null"], []⟩, .ref (.str "#")] := hc
        have ht' : t = .referenced (.str "#") := by
          simp only [List.mem_cons, List.not_mem_nil, or_false] at hc'
          rcases hc' with rfl | rfl
          · cases ht
          · exact List.mem_singleton.1 ht
        subst ht'
        rw [Registry.Sees, seen?_circularRoot] at hs
        cases hs
        rfl

theorem mem_valid_circular : (circularRoot, .root .null) ∈ valid circularRegistry := by
  refine (validate_iff_mem_valid (b := true) rfl ?_ disallowsNoSchema_circular ?_ ?_).1 rfl
  · intro key document hm
    cases List.mem_singleton.1 hm
    exact disallowsNoSchema_circular
  · intro p q hp hq _
    rw [eq_of_reaches_circular hp, eq_of_reaches_circular hq]
  · cbv

end Validation

end JsonSchema
