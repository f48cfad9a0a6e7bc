import JsonSchema.Proofs.Calls
import JsonSchema.Proofs.Outcome
import JsonSchema.Proofs.Reordered.Constraint
import JsonSchema.Proofs.Reordered.Vocabulary
import JsonSchema.Proofs.Termination
import Mathlib

/-!
# Validation does not depend on the order of members

The members of objects in a document and in a value may be permuted: the value is valid, invalid or
comes to a schema that is missing, as before. Messages may come in another order and say something
else. A failed constraint does not keep another one from ending the evaluation with a fault, and a
pair that counts as valid while it is being evaluated does so in every order.

* `Registry.Alike`: registries without fetchers that keep documents that are alike.
* `Validation.outcome_eq`: evaluations of what is alike have the same outcome, by induction on the
  nesting.
* `Validation.Conclusion`: what a validation says without its messages.
* `Registry.validate_reordered`: validation against a document that was registered.
-/

namespace JsonSchema

open Json

/-! ## Registries -/

/-- Registries without fetchers that keep documents that are alike for the same locators. -/
structure Registry.Alike (g g' : Registry) : Prop where
  offline : g.fetchers = []
  offline' : g'.fetchers = []
  kept : ∀ r, Option.Rel AlikePlaces (g.kept? r) (g'.kept? r)

namespace Registry.Alike

variable {g g' : Registry} {s s' : SchemaNode}

/-- **References address schemas that are alike.** -/
theorem getSchema (h : g.Alike g') (r : Reference) :
    Option.Rel SchemaNode.Alike (g.getSchema r).1.toOption (g'.getSchema r).1.toOption := by
  have hkept := h.kept r.toLocator
  rw [((Replays.refl h.offline).getSchema r).1, ((Replays.refl h.offline').getSchema r).1]
  generalize g.kept? r.toLocator = x at hkept ⊢
  generalize g'.kept? r.toLocator = y at hkept ⊢
  cases hkept with
  | none => exact .none
  | some hd => exact nodeOf_alike hd r

/-- Targets that are alike show schemas that are alike. -/
theorem seen? (h : g.Alike g') (hs : s.Alike s') {t t' : Target} (ht : t.Alike t') :
    Option.Rel SchemaNode.Alike (g.seen? s t) (g'.seen? s' t') := by
  unfold Registry.seen? Registry.find
  rw [← hs.locate_eq t', ← ht s]
  cases s.locate t with
  | error cause => exact .none
  | ok r => exact h.getSchema r

/-- What is kept later is alike, too. -/
theorem of_replays {g₁ g₁' : Registry} (h : g.Alike g') (hg : g.Replays g₁) (hg' : g'.Replays g₁') :
    g₁.Alike g₁' where
  offline := hg.fetchers.trans h.offline
  offline' := hg'.fetchers.trans h.offline'
  kept r := by
    rw [hg.kept, hg'.kept]
    exact h.kept r

end Registry.Alike

/-! ## Outcomes -/

namespace Validation

variable {g g' : Registry} {s s' : SchemaNode} {n n' : Instance}

theorem mapM_rel {α β : Type} {R : α → β → Prop} {f : Target → Option α} {f' : Target → Option β}
    (h : ∀ t, Option.Rel R (f t) (f' t)) (targets : List Target) :
    Option.Rel (List.Forall₂ R) (targets.mapM f) (targets.mapM f') := by
  induction targets with
  | nil => exact .some .nil
  | cons t rest ih =>
    have ht := h t
    rw [List.mapM_cons, List.mapM_cons]
    generalize f t = x at ht ⊢
    generalize f' t = y at ht ⊢
    generalize rest.mapM f = xs at ih ⊢
    generalize rest.mapM f' = ys at ih ⊢
    cases ht with
    | none => exact .none
    | some hxy =>
      cases ih with
      | none => exact .none
      | some hrest => exact .some (.cons hxy hrest)

section Verdicts

variable {sees sees' : Target → Option SchemaNode} {eval eval' : SchemaNode → Option Bool}

theorem attempts_eq (hsees : ∀ t, Option.Rel SchemaNode.Alike (sees t) (sees' t))
    (heval : ∀ {a b : SchemaNode}, a.Alike b → eval a = eval' b) (targets : List Target) :
    ((targets.mapM sees).bind fun schemas => disjunction (schemas.map eval)) =
      (targets.mapM sees').bind fun schemas => disjunction (schemas.map eval') := by
  have hfound := mapM_rel hsees targets
  generalize targets.mapM sees = x at hfound ⊢
  generalize targets.mapM sees' = y at hfound ⊢
  cases hfound with
  | none => rfl
  | some hschemas =>
    refine congrArg disjunction ?_
    induction hschemas with
    | nil => rfl
    | cons h _ ih => rw [List.map_cons, List.map_cons, heval h, ih]

theorem bind_eval_eq (heval : ∀ {a b : SchemaNode}, a.Alike b → eval a = eval' b)
    {x y : Option SchemaNode} (h : Option.Rel SchemaNode.Alike x y) :
    x.bind eval = y.bind eval' := by
  cases h with
  | none => rfl
  | some hxy => exact heval hxy

/-- Verdicts that are alike have the same outcome. -/
theorem verdict_outcome_eq {verdict verdict' : Verdict} (h : verdict.Alike verdict')
    (hsees : ∀ {t t' : Target}, t.Alike t' → Option.Rel SchemaNode.Alike (sees t) (sees' t'))
    (heval : ∀ {a b : SchemaNode}, a.Alike b → eval a = eval' b) :
    Verdict.outcome sees eval verdict = Verdict.outcome sees' eval' verdict' := by
  cases h with
  | passed => rfl
  | failed => rfl
  | deferred ht => exact bind_eval_eq heval (hsees ht)
  | anyOf targets => exact attempts_eq (fun t => hsees fun _ => rfl) heval targets
  | noneOf targets =>
    exact congrArg (Option.map (!·)) (attempts_eq (fun t => hsees fun _ => rfl) heval targets)
  | overflow => rfl

end Verdicts

/-- Children that are alike are judged by schemas that are alike. -/
theorem child_outcome_eq (h : g.Alike g') (hs : s.Alike s') (routing : Routing)
    {child child' : Instance} (hchild : child.Alike child')
    {eval eval' : SchemaNode → Option Bool}
    (heval : ∀ {a b : SchemaNode}, a.Alike b → eval a = eval' b) :
    conjunction ((routing.childTargets s child).map fun t => (g.seen? s t).bind eval) =
      conjunction ((routing.childTargets s' child').map fun t => (g'.seen? s' t).bind eval') := by
  have htargets : (routing.childTargets s child).Perm (routing.childTargets s' child') := by
    unfold Routing.childTargets
    rw [← hchild.step]
    cases child.step with
    | none => exact .nil
    | some step => exact Routing.targets_perm hs.raw routing step
  have hseen (t : Target) : (g.seen? s t).bind eval = (g'.seen? s' t).bind eval' :=
    bind_eval_eq heval (h.seen? hs fun _ => rfl)
  simp only [hseen]
  exact conjunction_perm (htargets.map _)

/-- **Evaluations of what is alike have the same outcome.** -/
theorem outcome_eq (h : g.Alike g') (depth : Nat) (active : List Pair) (hs : s.Alike s')
    (hn : n.Alike n') : outcome g depth active s n = outcome g' depth active s' n' := by
  induction depth generalizing active s s' n n' with
  | zero => rfl
  | succ depth ih =>
    have hpair : pairOf s n = pairOf s' n' := by
      rw [pairOf, pairOf, hs.reference_eq, hn.pointer]
    have htype : n.type = n'.type := hn.value.type_eq
    rw [outcome, outcome, ← hpair, ← htype]
    by_cases hm : active.contains (pairOf s n) = true
    · rw [if_pos hm, if_pos hm]
    rw [if_neg hm, if_neg hm]
    refine congrArg₂ Option.bind ?_ (funext fun passed => ?_)
    · refine conjunction_perm ((Constraint.forType_permBy hs.raw n.type).map_perm fun c c' hc => ?_)
      exact verdict_outcome_eq (hc.judge hn.value) (h.seen? hs) fun hab => ih _ hab hn
    · rw [Routing.of_eq hs.raw]
      cases passed with
      | false => rw [if_neg Bool.false_ne_true, if_neg Bool.false_ne_true]
      | true =>
        rw [if_pos rfl, if_pos rfl]
        refine conjunction_perm (hn.children.map_perm fun child child' hchild => ?_)
        exact child_outcome_eq h hs _ hchild fun hab => ih _ hab hchild

/-! ## Conclusions -/

/-- What a validation says without its messages. -/
inductive Conclusion
  | valid
  | invalid
  /-- A schema cannot be resolved. -/
  | unresolved
  deriving DecidableEq

/-- What a validation says, if it comes to an end without a remainder that is out of range. -/
def conclusion? : Except Fault Report → Option Conclusion
  | .ok report => some (if report.valid then .valid else .invalid)
  | .error (.unresolved _) => some .unresolved
  | .error _ => none

/-- A validation does not come to a remainder that is out of range. -/
def KeepsInRange (result : Except Fault Report) : Prop :=
  ∀ active, result ≠ .error (.overflow active)

theorem keepsInRange_of_conclusion? {result : Except Fault Report} {conclusion : Conclusion}
    (h : conclusion? result = some conclusion) : KeepsInRange result := by
  rintro active rfl
  cases h

/-- Two validations say the same, if neither comes to a remainder that is out of range. -/
def SameConclusion (result result' : Except Fault Report) : Prop :=
  KeepsInRange result → KeepsInRange result' →
    ∃ conclusion, conclusion? result = some conclusion ∧ conclusion? result' = some conclusion

theorem sameConclusion_unresolved (cause cause' : ResolveError) :
    SameConclusion (.error (.unresolved cause)) (.error (.unresolved cause')) :=
  fun _ _ => ⟨.unresolved, rfl, rfl⟩

theorem conclusion?_error {e : Fault} (hends : (.error e : Except Fault Report) ≠ .error .exhausted)
    (hrange : KeepsInRange (.error e)) : conclusion? (.error e) = some .unresolved := by
  cases e with
  | unresolved cause => rfl
  | overflow active => exact absurd rfl (hrange active)
  | exhausted => exact absurd rfl hends

/-- Validations that end with the same verdicts say the same. -/
theorem sameConclusion_of_toOption {result result' : Except Fault Report}
    (h : result.toOption.map Report.valid = result'.toOption.map Report.valid)
    (hends : result ≠ .error .exhausted) (hends' : result' ≠ .error .exhausted) :
    SameConclusion result result' := by
  intro hrange hrange'
  cases result with
  | ok report =>
    cases result' with
    | ok report' =>
      have hvalid : report.valid = report'.valid := Option.some.inj h
      refine ⟨_, rfl, ?_⟩
      rw [hvalid]
      rfl
    | error e' => cases h
  | error e =>
    cases result' with
    | ok report' => cases h
    | error e' => exact ⟨_, conclusion?_error hends hrange, conclusion?_error hends' hrange'⟩

/-- A validation comes out as the evaluation does. -/
theorem State.validate_fst (state : State) (g : Registry) (s : SchemaNode) (n : Instance) :
    (state.validate g s n).1 =
      ((visit (depthBound g s n.value) state.active s n).run ⟨g, state.messages⟩).1 := by
  -- what the evaluation leaves is taken apart first, lest the kernel reduce the evaluation
  rw [State.validate]
  rcases (visit (depthBound g s n.value) state.active s n).run ⟨g, state.messages⟩ with
    ⟨result, p⟩
  rfl

end Validation

open Validation

namespace Registry

variable {g g' : Registry} {q r : Reference} {d d' v v' : Json} {s s' : SchemaNode}

theorem toOption_validate (s : SchemaNode) (g : Registry) (v : Json) :
    (s.validate g v).1.toOption.map Report.valid =
      (State.validate {} g s (.root v)).1.toOption := by
  rw [validate_fst]
  cases (State.validate {} g s (.root v)).1 <;> rfl

/-- A validation ends with the outcome of its evaluation, under every bound that is large enough. -/
theorem exists_bound {g₀ : Registry} (offline : g.fetchers = []) (normal : r.IsNormal)
    (found : (g₀.getSchema r).1 = .ok s) (n : Instance) :
    (State.validate {} g s n).1 ≠ .error .exhausted ∧ ∃ bound, ∀ depth, bound < depth →
      (State.validate {} g s n).1.toOption = outcome g depth [] s n := by
  obtain ⟨hends, pairs, -, hsame, -⟩ := validate_ends offline normal found {} n
  refine ⟨hends, pairs.length, fun depth hdepth => ?_⟩
  have hrun := Evaluation.comesTo_visit (g := g) depth [] s n ⟨g, []⟩ (.refl offline)
  rw [← hrun.1, hsame depth hdepth, State.validate_fst]

/-- **Validations against schemas that are alike say the same.** -/
theorem Alike.validate (h : g.Alike g') (normal : q.IsNormal) (hv : v.Alike v') :
    SameConclusion (g.validate q v).1 (g'.validate q v').1 := by
  have hfound := h.getSchema q
  have hlater := h.of_replays ((Replays.refl h.offline).getSchema q).2
    ((Replays.refl h.offline').getSchema q).2
  unfold Registry.validate
  rcases hs : g.getSchema q with ⟨cause | s, g₁⟩
  · rcases hs' : g'.getSchema q with ⟨cause' | s', g₁'⟩
    · exact sameConclusion_unresolved _ _
    · rw [hs, hs'] at hfound
      cases hfound
  · rcases hs' : g'.getSchema q with ⟨cause' | s', g₁'⟩
    · rw [hs, hs'] at hfound
      cases hfound
    · rw [hs, hs'] at hfound hlater
      have halike : s.Alike s' := by
        cases hfound with
        | some halike => exact halike
      have hroot : (Instance.root v).Alike (.root v') := ⟨hv, rfl, rfl⟩
      obtain ⟨hends, bound, hbound⟩ := exists_bound hlater.offline normal
        (congrArg Prod.fst hs) (.root v)
      obtain ⟨hends', bound', hbound'⟩ := exists_bound hlater.offline' normal
        (congrArg Prod.fst hs') (.root v')
      have houtcome : (State.validate {} g₁ s (.root v)).1.toOption =
          (State.validate {} g₁' s' (.root v')).1.toOption := by
        rw [hbound (max bound bound' + 1) (by omega), hbound' (max bound bound' + 1) (by omega)]
        exact outcome_eq hlater _ [] halike hroot
      refine sameConclusion_of_toOption ?_ ?_ ?_
      · rw [toOption_validate, toOption_validate, houtcome]
      · exact fun he => hends (validate_eq_error_iff.1 he)
      · exact fun he => hends' (validate_eq_error_iff.1 he)

/-! ## Registering -/

theorem isNormal_of_rootLocator (h : rootLocator d = .ok r) : r.IsNormal := by
  unfold rootLocator at h
  cases hid : d.get? "id" with
  | none =>
    rw [hid] at h
    cases h
    exact Reference.isNormal_empty
  | some id =>
    rw [hid] at h
    obtain ⟨named, hnamed, rfl⟩ := Uri.map_eq_ok_iff.1 h
    split
    · cases id with
      | str text => exact (Reference.isNormal_of_parse hnamed).toLocator
      | _ =>
        cases hnamed
        exact Reference.isNormal_empty.toLocator
    · exact Reference.isNormal_empty

/-- Registries to which documents that are alike are added are alike. -/
theorem alike_register (offline : g.fetchers = []) (standard : g.vocabulary = .standard)
    (hkept : ∀ r d, g.kept? r = some d → d.WellFormed) (h : d.AlikePlaces d') (r : Reference) :
    (g.register r d).2.Alike (g.register r d').2 where
  offline := (register_keeps g r d).1.trans offline
  offline' := (register_keeps g r d').1.trans offline
  kept l := by
    have hfiled : g.filedFor r d = g.filedFor r d' := by
      unfold filedFor
      rw [standard, Vocabulary.accepts_standard_eq h.alike,
        Reference.secondLocator?_eq _ h.alike]
    unfold kept?
    rw [cached?_register, cached?_register, hfiled]
    by_cases hl : l.locator ∈ (g.filedFor r d').map Reference.locator
    · rw [if_pos hl, if_pos hl]
      exact .some h
    · rw [if_neg hl, if_neg hl]
      change Option.Rel AlikePlaces (g.kept? l) (g.kept? l)
      cases hk : g.kept? l with
      | none => exact .none
      | some other => exact .some (.refl (hkept l other hk))

/-- **The order of members is immaterial** for what validation says. Let the members of any objects
in an accepted document, in which no two objects have the same anchor, and in a value be permuted.
The document is accepted as before. With either document registered in a registry without fetchers,
every reference leads to validations that say the same, and so does validation against the
document as root: the values are both valid, or both invalid, or a schema cannot be resolved in both
cases, unless a remainder is out of range in one of them. -/
theorem validate_reordered (offline : g.fetchers = []) (standard : g.vocabulary = .standard)
    (kept : ∀ r d, g.kept? r = some d → d.WellFormed) (hd : d.WellFormed)
    (accepted : Vocabulary.standard.accepts d) (anchors : d.anchors.Nodup) (hv : v.WellFormed)
    (h : d.Reordered d') (h' : v.Reordered v') :
    Vocabulary.standard.accepts d' ∧
      (∀ r q, q.IsNormal → SameConclusion ((g.register r d).2.validate q v).1
        ((g.register r d').2.validate q v').1) ∧
      SameConclusion (g.validateRoot d v) (g.validateRoot d' v') := by
  have hplaces := (h.alike hd).places anchors
  have halike (r : Reference) := alike_register offline standard kept hplaces r
  have hvalue := h'.alike hv
  have haccepts := Vocabulary.accepts_standard_eq hplaces.alike
  have accepted' : Vocabulary.standard.accepts d' := haccepts ▸ accepted
  refine ⟨accepted', fun r q normal => (halike r).validate normal hvalue, ?_⟩
  have hroots := rootLocator_eq hplaces.alike
  cases hroot : rootLocator d with
  | error cause =>
    rw [hroot] at hroots
    simp only [validateRoot, registerRoot, hroot, ← hroots]
    exact sameConclusion_unresolved _ _
  | ok locator =>
    rw [hroot] at hroots
    have hregister : (g.registerRoot d).1 = .ok locator :=
      registerRoot_of_accepts hroot (standard ▸ accepted)
    have hregister' : (g.registerRoot d').1 = .ok locator :=
      registerRoot_of_accepts hroots.symm (standard ▸ accepted')
    rw [validateRoot_of_registerRoot hregister, validateRoot_of_registerRoot hregister']
    exact (halike locator).validate (isNormal_of_rootLocator hroot) hvalue

/-- A value with two members. -/
def listed : Json :=
  .obj [("x", .null), ("y", .bool true)]

def listed' : Json :=
  .obj [("y", .bool true), ("x", .null)]

/-- A schema that has an anchor and admits the value. -/
def listing : Json :=
  .obj [("id", .str "#named"), ("enum", .arr [listed])]

def listing' : Json :=
  .obj [("enum", .arr [listed']), ("id", .str "#named")]

/-- A document that extends the schema by its anchor. -/
def anchored : Json :=
  .obj [("extends", .obj [("$ref", .str "#named")]), ("definitions", .obj [("a", listing)])]

def anchored' : Json :=
  .obj [("definitions", .obj [("a", listing')]), ("extends", .obj [("$ref", .str "#named")])]

theorem reordered_listed : listed.Reordered listed' :=
  .obj (.swap _ _ _)

theorem reordered_listing : listing.Reordered listing' := by
  refine reordered_obj_iff.2 ⟨_, ⟨[("id", .str "#named"), ("enum", .arr [listed'])], ?_,
    .swap _ _ _⟩, rfl⟩
  refine .cons ⟨rfl, .refl _⟩ (.cons ⟨rfl, ?_⟩ .nil)
  exact reordered_arr_iff.2 ⟨[listed'], .cons reordered_listed .nil, rfl⟩

theorem reordered_anchored : anchored.Reordered anchored' := by
  refine reordered_obj_iff.2 ⟨_, ⟨[("extends", .obj [("$ref", .str "#named")]),
    ("definitions", .obj [("a", listing')])], ?_, .swap _ _ _⟩, rfl⟩
  refine .cons ⟨rfl, .refl _⟩ (.cons ⟨rfl, ?_⟩ .nil)
  exact reordered_obj_iff.2
    ⟨[("a", listing')], .of_forall₂ (.cons ⟨rfl, reordered_listing⟩ .nil), rfl⟩

theorem validate_reordered_anchored : anchored.anchors = ["#named"] ∧
    anchored.Reordered anchored' ∧ listed.Reordered listed' ∧
    SameConclusion ((fresh [] .standard).validateRoot anchored listed)
      ((fresh [] .standard).validateRoot anchored' listed') ∧
    ∃ conclusion, conclusion = .valid ∧
      conclusion? (((fresh [] .standard).register .empty anchored).2.validate .empty listed).1 =
        some conclusion ∧
      conclusion? (((fresh [] .standard).register .empty anchored').2.validate .empty listed').1 =
        some conclusion := by
  have hanchors : anchored.anchors = ["#named"] := by cbv
  have hlisted : listed.WellFormed := by
    simp [listed, WellFormed, WellFormedMembers]
  have hanchored : anchored.WellFormed := by
    simp [anchored, listing, listed, WellFormed, WellFormedMembers, WellFormedItems]
  obtain ⟨-, hsame, hroot⟩ := validate_reordered (g := fresh [] .standard) rfl rfl
    (fun _ _ hk => by cases hk) hanchored (by cbv) (by rw [hanchors]; decide) hlisted
    reordered_anchored reordered_listed
  have hvalid : conclusion?
      (((fresh [] .standard).register .empty anchored).2.validate .empty listed).1 =
        some .valid := by decide +kernel
  have hvalid' : conclusion?
      (((fresh [] .standard).register .empty anchored').2.validate .empty listed').1 =
        some .valid := by decide +kernel
  obtain ⟨conclusion, hc, hc'⟩ := hsame .empty .empty Reference.isNormal_empty
    (keepsInRange_of_conclusion? hvalid) (keepsInRange_of_conclusion? hvalid')
  exact ⟨hanchors, reordered_anchored, reordered_listed, hroot, conclusion,
    Option.some.inj (hc.symm.trans hvalid), hc, hc'⟩

end Registry

end JsonSchema
