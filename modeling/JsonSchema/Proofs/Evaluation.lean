import JsonSchema.Proofs.Constraint
import JsonSchema.Validation
import Mathlib

/-!
# Rules for evaluations

`Meets I x Q E` says that the computation `x`, run in a registry with the property `I`, leaves a
registry with this property, that a value it returns has the property `Q`, and that a fault it
ends with has the property `E`. There is one rule for each way of putting evaluations together:

* `Meets.all`, `Meets.any` for runs of several tests, `Meets.silently` for attempts,
* `Meets.passes` for one constraint, by its verdict,
* `Meets.childPasses` for one child of an instance.

A test is described by two propositions, `Judges T F`: the first holds if it is passed, and the
second if it is not. `Reaches` are the pairs of schema and node that an evaluation comes to, and
`meets_visit_of_safe` keeps a property of these pairs along an evaluation.
-/

namespace JsonSchema

namespace Verdict

/-- A verdict comes out well if the places at which schemas accept have the property `A` and the
places at which they reject have the property `R`. -/
def Favours (A R : Target → Prop) : Verdict → Prop
  | passed => True
  | deferred target => A target
  | anyOf targets _ => ∃ t ∈ targets, A t
  | noneOf targets _ => ∀ t ∈ targets, R t
  | failed _ | overflow => False

/-- A verdict comes out badly, for the same properties. -/
def Refuses (A R : Target → Prop) : Verdict → Prop
  | failed _ => True
  | deferred target => R target
  | anyOf targets _ => ∀ t ∈ targets, R t
  | noneOf targets _ => ∃ t ∈ targets, A t
  | passed | overflow => False

end Verdict

/-- The places of the schemas that a schema gives for a child. -/
def Routing.childTargets (r : Routing) (schema : SchemaNode) (child : Instance) : List Target :=
  (child.step.map (r.targets schema.raw)).getD []

theorem Routing.exists_step_of_mem_childTargets {r : Routing} {schema : SchemaNode}
    {child : Instance} {t : Target} (h : t ∈ r.childTargets schema child) :
    ∃ step, t ∈ r.targets schema.raw step := by
  unfold childTargets at h
  cases hs : child.step with
  | none =>
    rw [hs] at h
    cases h
  | some step =>
    rw [hs] at h
    exact ⟨step, h⟩

/-- A node whose value has members is a place of its document. -/
theorem SchemaNode.at?_of_mem_members {s : SchemaNode} {m : String × Json}
    (h : m ∈ s.raw.members) : s.document.at? s.pointer = some s.raw := by
  unfold SchemaNode.raw at h ⊢
  cases hat : s.document.at? s.pointer with
  | none =>
    -- Where there is nothing, there are no members either.
    rw [hat] at h
    cases h
  | some v => rfl

namespace Validation

/-! ## Reached pairs -/

/-- A schema and a node of an instance. -/
abbrev Judgement := SchemaNode × Instance

/-- The places that the evaluation of a schema on a node looks up, each with the node that is
judged there. -/
inductive LooksUp (schema : SchemaNode) (n : Instance) : Target → Instance → Prop
  | constraint {c : Constraint} {t : Target} (hc : c ∈ Constraint.forType schema.raw n.type)
      (ht : t ∈ (c.judge n.value).targets) : LooksUp schema n t n
  | child {child : Instance} {t : Target} (hm : child ∈ n.children)
      (ht : t ∈ (Routing.of n.type schema.raw).childTargets schema child) :
      LooksUp schema n t child

/-- A pair leads to the pairs that its evaluation looks at; `sees` gives the schemas at places. -/
inductive Leads (sees : SchemaNode → Target → SchemaNode → Prop) : Judgement → Judgement → Prop
  | looksUp {s s' : SchemaNode} {n n' : Instance} {t : Target} (hl : LooksUp s n t n')
      (hs : sees s t s') : Leads sees (s, n) (s', n')

/-- The pairs that an evaluation comes to. -/
def Reaches (sees : SchemaNode → Target → SchemaNode → Prop) : Judgement → Judgement → Prop :=
  Relation.ReflTransGen (Leads sees)

namespace Evaluation

variable {α β : Type} {I : Registry → Prop} {E : Fault → Prop}

/-! ## Runs -/

/-- A computation goes on in the state in which the one before it ends, whatever its states are. -/
theorem run_bind {σ : Type} (x : ExceptT Fault (StateM σ) α) (f : α → ExceptT Fault (StateM σ) β)
    (p : σ) : (x >>= f).run p = match x.run p with
      | (.ok a, q) => (f a).run q
      | (.error e, q) => (.error e, q) := by
  change ExceptT.bindCont f (x.run p).1 (x.run p).2 = _
  rcases x.run p with ⟨e | a, q⟩ <;> rfl

theorem run_find (schema : SchemaNode) (target : Target) (p : Progress) :
    (find schema target).run p =
      ((p.registry.find schema target).1.mapError .unresolved,
        { p with registry := (p.registry.find schema target).2 }) := rfl

theorem run_silently (active : List Pair) (x : Evaluation Bool) (p : Progress) :
    (silently active x).run p =
      ((x.run ⟨p.registry, []⟩).1.mapError fun
        | .overflow _ => .overflow active
        | fault => fault, ⟨(x.run ⟨p.registry, []⟩).2.registry, p.messages⟩) := rfl

/-- A computation keeps a property of the registry, and its result and fault have properties. -/
def Meets (I : Registry → Prop) (x : Evaluation α) (Q : α → Prop) (E : Fault → Prop) : Prop :=
  ∀ p : Progress, I p.registry → I (x.run p).2.registry ∧
    match (x.run p).1 with
    | .ok a => Q a
    | .error e => E e

/-- What the two outcomes of a test say. -/
def Judges (T F : Prop) (passed : Bool) : Prop :=
  (passed = true → T) ∧ (passed = false → F)

theorem Judges.mono {T T' F F' : Prop} {b : Bool} (h : Judges T F b) (hT : T → T')
    (hF : F → F') : Judges T' F' b :=
  ⟨fun hb => hT (h.1 hb), fun hb => hF (h.2 hb)⟩

/-- The negation of a test, with the two propositions exchanged. -/
theorem Judges.not {T F : Prop} {b : Bool} (h : Judges T F b) : Judges F T (!b) := by
  cases b
  · exact ⟨fun _ => h.2 rfl, nofun⟩
  · exact ⟨nofun, fun _ => h.1 rfl⟩

namespace Meets

variable {x : Evaluation α} {Q Q' : α → Prop} {E' : Fault → Prop}

theorem mono (h : Meets I x Q E) (hQ : ∀ a, Q a → Q' a) (hE : ∀ e, E e → E' e) :
    Meets I x Q' E' := by
  intro p hp
  obtain ⟨hI, hr⟩ := h p hp
  refine ⟨hI, ?_⟩
  cases hx : (x.run p).1 with
  | error e => rw [hx] at hr; exact hE e hr
  | ok a => rw [hx] at hr; exact hQ a hr

theorem pure {a : α} (h : Q a) : Meets I (Pure.pure a) Q E :=
  fun _ hp => ⟨hp, h⟩

theorem throw {e : Fault} (h : E e) : Meets I (MonadExcept.throw e) Q E :=
  fun _ hp => ⟨hp, h⟩

theorem bind {f : α → Evaluation β} {Q : β → Prop} {P : α → Prop} (hx : Meets I x P E)
    (hf : ∀ a, P a → Meets I (f a) Q E) : Meets I (x >>= f) Q E := by
  intro p hp
  obtain ⟨hI, hr⟩ := hx p hp
  rw [run_bind]
  rcases h : x.run p with ⟨r, q⟩
  rw [h] at hI hr
  cases r with
  | error e => exact ⟨hI, hr⟩
  | ok a => exact hf a hr q hI

theorem report {Q : Unit → Prop} (n : Instance) (keyword : String) (violations : List Violation)
    (h : Q ()) : Meets I (Evaluation.report n keyword violations) Q E :=
  fun _ hp => ⟨hp, h⟩

/-- A look-up, from what it does to every registry. -/
theorem find {schema : SchemaNode} {target : Target} {Q : SchemaNode → Prop}
    (h : ∀ g, I g → I (g.find schema target).2 ∧
      match (g.find schema target).1 with
      | .ok s => Q s
      | .error cause => E (.unresolved cause)) :
    Meets I (Evaluation.find schema target) Q E := by
  intro p hp
  obtain ⟨hI, hr⟩ := h p.registry hp
  rw [run_find]
  refine ⟨hI, ?_⟩
  cases hx : (p.registry.find schema target).1 with
  | error cause => rw [hx] at hr; exact hr
  | ok s => rw [hx] at hr; exact hr

/-- Several look-ups give what each of them gives, in order. -/
theorem findAll {schema : SchemaNode} {P : Target → SchemaNode → Prop} {targets : List Target}
    (h : ∀ t ∈ targets, Meets I (Evaluation.find schema t) (P t) E) :
    Meets I (Evaluation.findAll schema targets) (List.Forall₂ P targets) E := by
  induction targets with
  | nil => exact pure .nil
  | cons t rest ih =>
    refine bind (h t (by simp)) fun s hs => ?_
    refine bind (ih fun t' ht' => h t' (by simp [ht'])) fun ss hss => ?_
    exact pure (.cons hs hss)

theorem all {T F : β → Prop} {f : β → Evaluation Bool} {xs : List β}
    (h : ∀ b ∈ xs, Meets I (f b) (Judges (T b) (F b)) E) :
    Meets I (Evaluation.all (xs.map f)) (Judges (∀ b ∈ xs, T b) (∃ b ∈ xs, F b)) E := by
  induction xs with
  | nil => exact pure ⟨by simp, by simp⟩
  | cons b rest ih =>
    refine bind (h b (by simp)) fun first hb => ?_
    refine bind (ih fun b' hb' => h b' (by simp [hb'])) fun others hr => pure ⟨?_, ?_⟩
    · intro he
      obtain ⟨h₁, h₂⟩ := Bool.and_eq_true_iff.1 he
      exact List.forall_mem_cons.2 ⟨hb.1 h₁, hr.1 h₂⟩
    · intro he
      rcases Bool.and_eq_false_iff.1 he with h₁ | h₂
      · exact ⟨b, by simp, hb.2 h₁⟩
      · obtain ⟨b', hm, hF⟩ := hr.2 h₂
        exact ⟨b', by simp [hm], hF⟩

theorem any {T F : β → Prop} {f : β → Evaluation Bool} {xs : List β}
    (h : ∀ b ∈ xs, Meets I (f b) (Judges (T b) (F b)) E) :
    Meets I (Evaluation.any (xs.map f)) (Judges (∃ b ∈ xs, T b) (∀ b ∈ xs, F b)) E := by
  induction xs with
  | nil => exact pure ⟨by simp, by simp⟩
  | cons b rest ih =>
    refine bind (h b (by simp)) fun first hb => ?_
    cases first with
    | true => exact pure ⟨fun _ => ⟨b, by simp, hb.1 rfl⟩, nofun⟩
    | false =>
      refine (ih fun b' hb' => h b' (by simp [hb'])).mono (fun others hr => ?_) fun _ he => he
      refine hr.mono (fun ⟨b', hm, hT⟩ => ⟨b', by simp [hm], hT⟩) fun hF => ?_
      exact List.forall_mem_cons.2 ⟨hb.2 rfl, hF⟩

/-- An attempt gives what the test gives; a fault of overflow forgets what was active inside. -/
theorem silently {active : List Pair} {x : Evaluation Bool} {Q : Bool → Prop}
    (hE : ∀ inner, E (.overflow inner) → E (.overflow active)) (h : Meets I x Q E) :
    Meets I (Evaluation.silently active x) Q E := by
  intro p hp
  obtain ⟨hI, hr⟩ := h ⟨p.registry, []⟩ hp
  rw [run_silently]
  refine ⟨hI, ?_⟩
  cases hx : (x.run ⟨p.registry, []⟩).1 with
  | ok b => rw [hx] at hr; exact hr
  | error fault =>
    rw [hx] at hr
    cases fault with
    | overflow inner => exact hE inner hr
    | unresolved cause => exact hr
    | exhausted => exact hr

theorem orReport {passed : Bool} {Q : Bool → Prop} (n : Instance) (keyword : String)
    (violation : Violation) (h : Q passed) :
    Meets I (Evaluation.orReport passed n keyword violation) Q E := by
  cases passed with
  | true => exact fun _ hp => ⟨hp, h⟩
  | false => exact fun _ hp => ⟨hp, h⟩

end Meets

/-! ## Constraints and children -/

section Steps

variable {visit : SchemaNode → Instance → Evaluation Bool} {schema : SchemaNode} {n : Instance}
  {P : Target → SchemaNode → Prop} {T F : SchemaNode → Prop}

/-- The schemas that were looked up are those of the places, in order. -/
theorem exists_of_mem_found {targets : List Target} {schemas : List SchemaNode}
    (h : List.Forall₂ P targets schemas) :
    (∀ s ∈ schemas, ∃ t ∈ targets, P t s) ∧ ∀ t ∈ targets, ∃ s ∈ schemas, P t s := by
  induction h with
  | nil => simp
  | @cons t s ts ss hP _ ih =>
    refine ⟨List.forall_mem_cons.2 ⟨⟨t, by simp, hP⟩, fun s' hs' => ?_⟩,
      List.forall_mem_cons.2 ⟨⟨s, by simp, hP⟩, fun t' ht' => ?_⟩⟩
    · obtain ⟨t', ht', hP'⟩ := ih.1 s' hs'
      exact ⟨t', by simp [ht'], hP'⟩
    · obtain ⟨s', hs', hP'⟩ := ih.2 t' ht'
      exact ⟨s', by simp [hs'], hP'⟩

/-- Attempts with the schemas at some places: one of them accepts, or all of them reject. -/
theorem meets_attempts {active : List Pair} {targets : List Target}
    (silent : ∀ inner, E (.overflow inner) → E (.overflow active))
    (found : ∀ t ∈ targets, Meets I (find schema t) (P t) E)
    (judged : ∀ t ∈ targets, ∀ s, P t s → Meets I (visit s n) (Judges (T s) (F s)) E) :
    Meets I (findAll schema targets >>= fun schemas =>
        any (schemas.map fun s => silently active (visit s n)))
      (Judges (∃ t ∈ targets, ∃ s, P t s ∧ T s) (∀ t ∈ targets, ∃ s, P t s ∧ F s)) E := by
  refine .bind (.findAll found) fun schemas hs => ?_
  obtain ⟨hsources, htargets⟩ := exists_of_mem_found hs
  refine (Meets.any (T := T) (F := F) fun s hm => ?_).mono (fun b hb => hb.mono ?_ ?_)
    fun _ he => he
  · obtain ⟨t, ht, hP⟩ := hsources s hm
    exact .silently silent (judged t ht s hP)
  · rintro ⟨s, hm, hT⟩
    obtain ⟨t, ht, hP⟩ := hsources s hm
    exact ⟨t, ht, s, hP, hT⟩
  · intro hF t ht
    obtain ⟨s, hm, hP⟩ := htargets t ht
    exact ⟨s, hP, hF s hm⟩

/-- **A constraint is passed as its verdict says**, once the schemas that it leaves the matter to
have been found and have judged. -/
theorem meets_passes {active : List Pair} {c : Constraint}
    (silent : ∀ inner, E (.overflow inner) → E (.overflow active))
    (overflow : c.judge n.value = .overflow → E (.overflow active))
    (found : ∀ t ∈ (c.judge n.value).targets, Meets I (find schema t) (P t) E)
    (judged : ∀ t ∈ (c.judge n.value).targets, ∀ s, P t s →
      Meets I (visit s n) (Judges (T s) (F s)) E) :
    Meets I (passes visit active schema n c)
      (Judges
        ((c.judge n.value).Favours (fun t => ∃ s, P t s ∧ T s) fun t => ∃ s, P t s ∧ F s)
        ((c.judge n.value).Refuses (fun t => ∃ s, P t s ∧ T s) fun t => ∃ s, P t s ∧ F s))
      E := by
  unfold passes
  cases hc : c.judge n.value with
  | passed => exact .pure ⟨fun _ => trivial, nofun⟩
  | failed violations =>
    refine .bind (P := fun _ => True) (.report n c.keyword violations trivial) fun _ _ => ?_
    exact .pure ⟨nofun, fun _ => trivial⟩
  | deferred target =>
    rw [hc] at found judged
    refine .bind (found target (List.mem_singleton_self _)) fun s hP => ?_
    refine (judged target (List.mem_singleton_self _) s hP).mono (fun b hb => ?_) fun _ he => he
    exact hb.mono (fun hT => ⟨s, hP, hT⟩) fun hF => ⟨s, hP, hF⟩
  | anyOf targets otherwise =>
    rw [hc] at found judged
    have h := (meets_attempts silent found judged).bind
      fun b hb => Meets.orReport n c.keyword otherwise hb
    rwa [bind_assoc] at h
  | noneOf targets otherwise =>
    rw [hc] at found judged
    have h := (meets_attempts silent found judged).bind
      fun b hb => Meets.orReport n c.keyword otherwise hb.not
    rwa [bind_assoc] at h
  | overflow => exact .throw (overflow hc)

/-- A child is judged by all the schemas that are given for it. -/
theorem meets_childPasses {routing : Routing} {child : Instance} {T F : SchemaNode → Prop}
    (found : ∀ t ∈ routing.childTargets schema child, Meets I (find schema t) (P t) E)
    (judged : ∀ t ∈ routing.childTargets schema child, ∀ s, P t s →
      Meets I (visit s child) (Judges (T s) (F s)) E) :
    Meets I (childPasses visit schema routing child)
      (Judges (∀ t ∈ routing.childTargets schema child, ∃ s, P t s ∧ T s)
        (∃ t ∈ routing.childTargets schema child, ∃ s, P t s ∧ F s)) E := by
  refine .bind (.findAll found) fun schemas hs => ?_
  obtain ⟨hsources, htargets⟩ := exists_of_mem_found hs
  refine (Meets.all (T := T) (F := F) fun s hm => ?_).mono (fun b hb => hb.mono ?_ ?_)
    fun _ he => he
  · obtain ⟨t, ht, hP⟩ := hsources s hm
    exact judged t ht s hP
  · intro hT t ht
    obtain ⟨s, hm, hP⟩ := htargets t ht
    exact ⟨s, hP, hT s hm⟩
  · rintro ⟨s, hm, hF⟩
    obtain ⟨t, ht, hP⟩ := hsources s hm
    exact ⟨t, ht, s, hP, hF⟩

/-- Without schemas for children there is nothing to look up. -/
theorem all_childPasses_none (children : List Instance) :
    all (children.map (childPasses visit schema .none)) = pure true := by
  induction children with
  | nil => rfl
  | cons c rest ih =>
    have hc : childPasses visit schema .none c = pure true := by
      cases hs : c.step <;> simp [childPasses, hs, Routing.targets, findAll, all]
    rw [List.map_cons, all, ih, hc]
    rfl

end Steps

/-! ## Evaluations of pairs -/

/-- A pair that is being evaluated counts as valid. -/
theorem visit_of_mem {depth : Nat} {active : List Pair} {schema : SchemaNode} {n : Instance}
    (h : pairOf schema n ∈ active) : visit (depth + 1) active schema n = pure true := by
  rw [visit, if_pos h]

/-- Another pair is judged by its constraints, and by its children if it passes them. -/
theorem visit_of_notMem {depth : Nat} {active : List Pair} {schema : SchemaNode} {n : Instance}
    (h : pairOf schema n ∉ active) :
    visit (depth + 1) active schema n =
      all ((Constraint.forType schema.raw n.type).map
        (passes (visit depth (pairOf schema n :: active)) (pairOf schema n :: active) schema n)) >>=
      fun passed => if passed then
        all (n.children.map (childPasses (visit depth (pairOf schema n :: active)) schema
          (Routing.of n.type schema.raw)))
      else pure false := by
  rw [visit, if_neg h]
  refine congrArg (_ >>= ·) (funext fun passed => ?_)
  cases passed with
  | false => rfl
  | true =>
    by_cases hr : Routing.of n.type schema.raw = .none
    · simp [hr, all_childPasses_none]
    · simp [hr]

/-- **A property of pairs that every look-up passes on holds along an evaluation**, so the faults
of an evaluation come from such pairs only. The property may depend on how deep the evaluation may
still nest. -/
theorem meets_visit_of_safe_within {P : Nat → Judgement → Prop}
    (exhausted : ∀ {p}, P 0 p → E .exhausted)
    (silent : ∀ inner active, E (.overflow inner) → E (.overflow active))
    (overflow : ∀ {depth s n c}, P (depth + 1) (s, n) → c ∈ Constraint.forType s.raw n.type →
      c.judge n.value = .overflow → ∀ active, E (.overflow active))
    (found : ∀ {depth s n t n'}, P (depth + 1) (s, n) → LooksUp s n t n' →
      Meets I (find s t) (fun s' => P depth (s', n')) E) (depth : Nat) :
    ∀ {active : List Pair} {s : SchemaNode} {n : Instance}, P depth (s, n) →
      Meets I (visit depth active s n) (fun _ => True) E := by
  induction depth with
  | zero => exact fun hp => .throw (exhausted hp)
  | succ depth ih =>
    intro active s n hp
    by_cases hm : pairOf s n ∈ active
    · rw [visit_of_mem hm]
      exact .pure trivial
    have hjudges {s' : SchemaNode} {n' : Instance} (hp' : P depth (s', n')) :
        Meets I (visit depth (pairOf s n :: active) s' n') (Judges True True) E :=
      (ih hp').mono (fun _ _ => ⟨fun _ => trivial, fun _ => trivial⟩) fun _ he => he
    have hconstraints := Meets.all fun c hc =>
      meets_passes (fun inner => silent inner (pairOf s n :: active))
        (fun ho => overflow hp hc ho (pairOf s n :: active))
        (fun t ht => found hp (.constraint hc ht)) fun t _ s' hp' => hjudges hp'
    have hchildren := Meets.all fun child hchild =>
      meets_childPasses (fun t ht => found hp (.child hchild ht)) fun t _ s' hp' => hjudges hp'
    rw [visit_of_notMem hm]
    refine hconstraints.bind fun passed _ => ?_
    cases passed with
    | false => exact .pure trivial
    | true => exact hchildren.mono (fun _ _ => trivial) fun _ he => he

/-- A property of pairs that every look-up passes on holds along an evaluation, however deep that
may nest. -/
theorem meets_visit_of_safe {P : Judgement → Prop} (exhausted : E .exhausted)
    (silent : ∀ inner active, E (.overflow inner) → E (.overflow active))
    (overflow : ∀ {s n c}, P (s, n) → c ∈ Constraint.forType s.raw n.type →
      c.judge n.value = .overflow → ∀ active, E (.overflow active))
    (found : ∀ {s n t n'}, P (s, n) → LooksUp s n t n' →
      Meets I (find s t) (fun s' => P (s', n')) E) (depth : Nat) :
    ∀ {active : List Pair} {s : SchemaNode} {n : Instance}, P (s, n) →
      Meets I (visit depth active s n) (fun _ => True) E :=
  meets_visit_of_safe_within (P := fun _ => P) (fun _ => exhausted) silent overflow found depth

/-- A validation comes out as the evaluation of its pair does. -/
theorem Meets.validate (state : State) {g : Registry} {schema : SchemaNode} {n : Instance}
    {Q : Bool → Prop}
    (h : Meets I (visit (depthBound g schema n.value) state.active schema n) Q E) (hg : I g) :
    match (state.validate g schema n).1 with
    | .ok b => Q b
    | .error e => E e := by
  unfold State.validate
  have hr := (h ⟨g, state.messages⟩ hg).2
  rcases hx : (visit (depthBound g schema n.value) state.active schema n).run
    ⟨g, state.messages⟩ with ⟨result, p⟩
  rw [hx] at hr
  simp only [hx]
  cases result with
  | error e => exact hr
  | ok b => exact hr

/-- A validation keeps what its evaluation keeps of the registry. -/
theorem Meets.validate_registry (state : State) {g : Registry} {schema : SchemaNode} {n : Instance}
    {Q : Bool → Prop}
    (h : Meets I (visit (depthBound g schema n.value) state.active schema n) Q E) (hg : I g) :
    I (state.validate g schema n).2.2 :=
  (h ⟨g, state.messages⟩ hg).1

/-- **A validation keeps what look-ups keep of the registry.** -/
theorem validate_keeps (find : ∀ g s t, I g → I (g.find s t).2) (state : State) {g : Registry}
    (hg : I g) (schema : SchemaNode) (n : Instance) : I (state.validate g schema n).2.2 := by
  have hfind (s : SchemaNode) (t : Target) :
      Meets I (Evaluation.find s t) (fun _ => True) fun _ => True := by
    refine .find fun g' hg' => ⟨find g' s t hg', ?_⟩
    cases (g'.find s t).1 <;> trivial
  have hvisit : Meets I (visit (depthBound g schema n.value) state.active schema n)
      (fun _ => True) fun _ => True :=
    meets_visit_of_safe (P := fun _ => True) trivial (fun _ _ => id) (fun _ _ _ _ => trivial)
      (fun _ _ => hfind _ _) _ trivial
  exact hvisit.validate_registry state hg

end Evaluation

end Validation

end JsonSchema
