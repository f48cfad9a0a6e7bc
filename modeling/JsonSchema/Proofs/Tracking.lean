import JsonSchema.Proofs.Session
import JsonSchema.Proofs.Simulation
import JsonSchema.Vocabulary.Standard
import Mathlib

/-!
# States that validations share

An evaluation is given the pairs that are being evaluated. They can as well be kept in a state, next
to the messages: a pair is entered before it is evaluated and taken out afterwards, with a verdict
or without, and an attempt works on a copy of the state. Only an evaluation that comes to a
remainder that is out of range never comes back, and leaves the pairs where they are.

* `Tracking.visit`: evaluations on such a state.
* `Tracking.ofEvaluation`: what an evaluation that is given its pairs does to a state.
* `Tracking.visit_eq`: the two are the same.
* `validateAll`: validations one after the other on one state.
* `validate_of_replays`: registries without fetchers that keep the same documents judge alike.
* `validate_on_shared_state`: what validations on one state know of each other.
-/

namespace JsonSchema.Validation

open Evaluation

variable {α β : Type}

/-- What evaluations share. -/
structure Shared where
  registry : Registry
  state : State

/-- A computation that works on a shared state. -/
abbrev Tracking := ExceptT Fault (StateM Shared)

namespace Tracking

/-! ## Evaluations on a state -/

/-- A computation that has nothing to do with the pairs. -/
def lift (x : Evaluation α) : Tracking α :=
  ExceptT.mk fun p =>
    let (result, q) := x.run ⟨p.registry, p.state.messages⟩
    (result, ⟨q.registry, { p.state with messages := q.messages }⟩)

/-- Runs every test and says whether all of them passed. -/
def all : List (Tracking Bool) → Tracking Bool
  | [] => pure true
  | test :: rest => do
    let passed ← test
    let others ← all rest
    return passed && others

/-- Runs tests until one passes, and says whether one did. -/
def any : List (Tracking Bool) → Tracking Bool
  | [] => pure false
  | test :: rest => do
    if ← test then pure true else any rest

/-- Runs a test on a copy of the state without messages, and drops the copy. -/
def attempt (test : Tracking Bool) : Tracking Bool :=
  ExceptT.mk fun p =>
    let (result, q) := test.run ⟨p.registry, { active := p.state.active }⟩
    (result.mapError (forgetting p.state.active), ⟨q.registry, p.state⟩)

/-- Stops at a remainder that is out of range, with the pairs that are in the state. -/
def overflow : Tracking Bool :=
  ExceptT.mk fun p => (.error (.overflow p.state.active), p)

/-- Enters a pair, runs a test and takes the pair out, unless the test has stopped for good. A pair
that is there already counts as passed. -/
def guarded (pair : Pair) (test : Tracking Bool) : Tracking Bool :=
  ExceptT.mk fun p =>
    if p.state.active.contains pair then (.ok true, p)
    else
      let entered := { p.state with active := pair :: p.state.active }
      match test.run { p with state := entered } with
      | (.error (.overflow active), q) => (.error (.overflow active), q)
      | (result, q) =>
        (result, { q with state := { q.state with active := q.state.active.erase pair } })

/-- Whether an instance passes a constraint of a schema. -/
def passes (visit : SchemaNode → Instance → Tracking Bool) (schema : SchemaNode) (n : Instance)
    (c : Constraint) : Tracking Bool :=
  match c.judge n.value with
  | .passed => pure true
  | .failed violations => do
    lift (report n c.keyword violations)
    return false
  | .deferred target => do
    visit (← lift (find schema target)) n
  | .anyOf targets otherwise => do
    let schemas ← lift (findAll schema targets)
    let accepted ← any (schemas.map fun s => attempt (visit s n))
    lift (orReport accepted n c.keyword otherwise)
  | .noneOf targets otherwise => do
    let schemas ← lift (findAll schema targets)
    let accepted ← any (schemas.map fun s => attempt (visit s n))
    lift (orReport (!accepted) n c.keyword otherwise)
  | .overflow => overflow

/-- Whether a child of an instance is valid against each schema that a schema gives for it. -/
def childPasses (visit : SchemaNode → Instance → Tracking Bool) (schema : SchemaNode)
    (routing : Routing) (child : Instance) : Tracking Bool := do
  let schemas ← lift (findAll schema (routing.childTargets schema child))
  all (schemas.map fun s => visit s child)

/-- Whether an instance is valid against a schema. Evaluations may be nested less than `depth`
times. -/
def visit : Nat → SchemaNode → Instance → Tracking Bool
  | 0, _, _ => throw .exhausted
  | depth + 1, schema, n => guarded (pairOf schema n) do
    let constraints := Constraint.forType schema.raw n.type
    let passed ← all (constraints.map (passes (visit depth) schema n))
    if !passed then
      return false
    let routing := Routing.of n.type schema.raw
    if routing = .none then
      return true
    all (n.children.map (childPasses (visit depth) schema routing))

/-! ## Evaluations that are given their pairs -/

/-- The state after a computation that leaves the pairs as they are, or leaves those at which a
remainder was out of range. -/
def leave (active : List Pair) : Except Fault α × Progress → Except Fault α × Shared
  | (.error (.overflow inner), q) => (.error (.overflow inner), ⟨q.registry, q.messages, inner⟩)
  | (result, q) => (result, ⟨q.registry, q.messages, active⟩)

/-- A computation that is given the pairs of a state and leaves them as they are. -/
def ofEvaluation (f : List Pair → Evaluation α) : Tracking α :=
  ExceptT.mk fun p => leave p.state.active ((f p.state.active).run ⟨p.registry, p.state.messages⟩)

theorem ext {x y : Tracking α} (h : ∀ p, x.run p = y.run p) : x = y :=
  funext h

theorem run_lift (x : Evaluation α) (p : Shared) :
    (lift x).run p =
      ((x.run ⟨p.registry, p.state.messages⟩).1,
        ⟨(x.run ⟨p.registry, p.state.messages⟩).2.registry,
          { p.state with messages := (x.run ⟨p.registry, p.state.messages⟩).2.messages }⟩) :=
  rfl

theorem run_attempt (test : Tracking Bool) (p : Shared) :
    (attempt test).run p =
      ((test.run ⟨p.registry, { active := p.state.active }⟩).1.mapError (forgetting p.state.active),
        ⟨(test.run ⟨p.registry, { active := p.state.active }⟩).2.registry, p.state⟩) :=
  rfl

theorem run_guarded_of_mem {pair : Pair} {p : Shared} (h : pair ∈ p.state.active)
    (test : Tracking Bool) : (guarded pair test).run p = (.ok true, p) :=
  if_pos (List.contains_iff_mem.2 h)

theorem run_guarded_of_notMem {pair : Pair} {p : Shared} (h : pair ∉ p.state.active)
    (test : Tracking Bool) :
    (guarded pair test).run p =
      match test.run ⟨p.registry, p.state.messages, pair :: p.state.active⟩ with
      | (.error (.overflow active), q) => (.error (.overflow active), q)
      | (result, q) =>
        (result, { q with state := { q.state with active := q.state.active.erase pair } }) :=
  if_neg fun hm => h (List.contains_iff_mem.1 hm)

theorem run_ofEvaluation (f : List Pair → Evaluation α) (p : Shared) :
    (ofEvaluation f).run p =
      leave p.state.active ((f p.state.active).run ⟨p.registry, p.state.messages⟩) :=
  rfl

theorem pure_eq (a : α) : (pure a : Tracking α) = ofEvaluation fun _ => pure a :=
  rfl

/-- **One computation after the other**: the second one finds the pairs that the first one was
given. -/
theorem bind_eq (f : List Pair → Evaluation α) (k : List Pair → α → Evaluation β) :
    (ofEvaluation f >>= fun a => ofEvaluation fun active => k active a) =
      ofEvaluation fun active => f active >>= k active := by
  refine ext fun p => ?_
  rw [Evaluation.run_bind, run_ofEvaluation, run_ofEvaluation, Evaluation.run_bind]
  rcases (f p.state.active).run ⟨p.registry, p.state.messages⟩ with ⟨e | a, q⟩
  · cases e <;> rfl
  · rfl

/-- A computation that never comes to a remainder has nothing to do with the pairs. -/
theorem lift_eq {x : Evaluation α}
    (h : Meets (fun _ => True) x (fun _ => True) fun e => ∀ active, e ≠ .overflow active) :
    lift x = ofEvaluation fun _ => x := by
  refine ext fun p => ?_
  have hfault := (h ⟨p.registry, p.state.messages⟩ trivial).2
  rw [run_ofEvaluation, run_lift]
  generalize x.run ⟨p.registry, p.state.messages⟩ = outcome at hfault ⊢
  rcases outcome with ⟨e | a, q⟩
  · cases e with
    | overflow active => exact absurd rfl (hfault active)
    | unresolved cause => rfl
    | exhausted => rfl
  · rfl

theorem ite_eq (c : Prop) [Decidable c] (f k : List Pair → Evaluation α) :
    (if c then ofEvaluation f else ofEvaluation k) =
      ofEvaluation fun active => if c then f active else k active := by
  split <;> rfl

theorem all_eq (f : List Pair → β → Evaluation Bool) (xs : List β) :
    all (xs.map fun x => ofEvaluation fun active => f active x) =
      ofEvaluation fun active => Evaluation.all (xs.map (f active)) := by
  induction xs with
  | nil => rfl
  | cons x rest ih => simp only [List.map_cons, all, Evaluation.all, ih, pure_eq, bind_eq]

theorem any_eq (f : List Pair → β → Evaluation Bool) (xs : List β) :
    any (xs.map fun x => ofEvaluation fun active => f active x) =
      ofEvaluation fun active => Evaluation.any (xs.map (f active)) := by
  induction xs with
  | nil => rfl
  | cons x rest ih => simp only [List.map_cons, any, Evaluation.any, ih, pure_eq, ite_eq, bind_eq]

theorem attempt_eq (f : List Pair → Evaluation Bool) :
    attempt (ofEvaluation f) = ofEvaluation fun active => silently active (f active) := by
  refine ext fun p => ?_
  rw [run_ofEvaluation, run_silently, run_attempt, run_ofEvaluation]
  rcases (f p.state.active).run ⟨p.registry, []⟩ with ⟨e | b, q⟩
  · cases e <;> rfl
  · rfl

/-- **A pair is taken out again**, with a verdict or without. -/
theorem guarded_eq (pair : Pair) (f : List Pair → Evaluation Bool) :
    guarded pair (ofEvaluation f) = ofEvaluation fun active =>
      if pair ∈ active then pure true else f (pair :: active) := by
  refine ext fun p => ?_
  rw [run_ofEvaluation]
  by_cases hm : pair ∈ p.state.active
  · rw [run_guarded_of_mem hm, if_pos hm]
    rfl
  · rw [run_guarded_of_notMem hm, if_neg hm, run_ofEvaluation]
    rcases (f (pair :: p.state.active)).run ⟨p.registry, p.state.messages⟩ with ⟨e | b, q⟩
    · cases e <;> simp [leave]
    · simp [leave]

/-! ## The same evaluations -/

/-- A look-up never comes to a remainder. -/
theorem meets_find (schema : SchemaNode) (t : Target) :
    Meets (fun _ => True) (find schema t) (fun _ => True)
      fun e => ∀ active, e ≠ .overflow active := by
  refine .find fun g _ => ⟨trivial, ?_⟩
  cases (g.find schema t).1 with
  | ok s => trivial
  | error cause => exact nofun

theorem lift_find (schema : SchemaNode) (t : Target) :
    lift (find schema t) = ofEvaluation fun _ => find schema t :=
  lift_eq (meets_find schema t)

theorem lift_findAll (schema : SchemaNode) (targets : List Target) :
    lift (findAll schema targets) = ofEvaluation fun _ => findAll schema targets :=
  lift_eq ((Meets.findAll fun t _ => meets_find schema t).mono (fun _ _ => trivial) fun _ he => he)

theorem lift_report (n : Instance) (keyword : String) (violations : List Violation) :
    lift (report n keyword violations) = ofEvaluation fun _ => report n keyword violations :=
  lift_eq (.report n keyword violations trivial)

theorem lift_orReport (passed : Bool) (n : Instance) (keyword : String) (violation : Violation) :
    lift (orReport passed n keyword violation) =
      ofEvaluation fun _ => orReport passed n keyword violation :=
  lift_eq (.orReport n keyword violation trivial)

section Steps

variable (v : List Pair → SchemaNode → Instance → Evaluation Bool) (schema : SchemaNode)
  (n : Instance)

/-- A constraint is passed as it is by an evaluation that is given its pairs. -/
theorem passes_eq (c : Constraint) :
    passes (fun s m => ofEvaluation fun active => v active s m) schema n c =
      ofEvaluation fun active => Validation.passes (v active) active schema n c := by
  unfold passes Validation.passes
  cases c.judge n.value with
  | passed => rfl
  | failed violations => simp only [lift_report, pure_eq, bind_eq]
  | deferred target => simp only [lift_find, bind_eq]
  | anyOf targets otherwise =>
    simp only [lift_findAll, attempt_eq, any_eq, lift_orReport, bind_eq]
  | noneOf targets otherwise =>
    simp only [lift_findAll, attempt_eq, any_eq, lift_orReport, bind_eq]
  | overflow => rfl

/-- So is a child. -/
theorem childPasses_eq (routing : Routing) (child : Instance) :
    childPasses (fun s m => ofEvaluation fun active => v active s m) schema routing child =
      ofEvaluation fun active => Validation.childPasses (v active) schema routing child := by
  simp only [childPasses, lift_findAll, all_eq, bind_eq]
  rfl

end Steps

/-- **An evaluation on a state is the evaluation that is given its pairs.** The induction is on the
nesting: whatever is evaluated inside leaves the pairs as it found them. -/
theorem visit_eq (depth : Nat) (schema : SchemaNode) (n : Instance) :
    visit depth schema n = ofEvaluation fun active => Validation.visit depth active schema n := by
  induction depth generalizing schema n with
  | zero => rfl
  | succ depth ih =>
    have hvisit : visit depth =
        fun s m => ofEvaluation fun active => Validation.visit depth active s m :=
      funext fun s => funext fun m => ih s m
    have hpasses := funext (passes_eq (fun active => Validation.visit depth active) schema n)
    have hchild := funext (childPasses_eq (fun active => Validation.visit depth active) schema
      (Routing.of n.type schema.raw))
    simp only [visit, hvisit, hpasses, hchild, all_eq, pure_eq, ite_eq, bind_eq, guarded_eq]
    rfl

/-- A validation is an evaluation on its state. -/
theorem run_visit_depthBound (state : State) (g : Registry) (schema : SchemaNode) (n : Instance) :
    (visit (depthBound g schema n.value) schema n).run ⟨g, state⟩ =
      ((state.validate g schema n).1,
        ⟨(state.validate g schema n).2.2, (state.validate g schema n).2.1⟩) := by
  rw [visit_eq, run_ofEvaluation]
  unfold State.validate
  simp only
  rcases (Validation.visit (depthBound g schema n.value) state.active schema n).run
    ⟨g, state.messages⟩ with ⟨e | b, q⟩
  · cases e <;> rfl
  · rfl

end Tracking

/-! ## Validations on one state -/

/-- Evaluations that are entered alike, apart from the messages that are there. -/
def alike : Link where
  registries := Eq
  faults := Eq
  message := id

/-- **An evaluation only adds messages**, and it does not depend on those that are there. -/
theorem relates_visit_alike (depth : Nat) (active : List Pair) (s : SchemaNode) (n : Instance) :
    Relates alike Eq (visit depth active s n) (visit depth active s n) :=
  relates_visit_self (fun _ => rfl) rfl (fun _ => rfl) (fun _ _ _ he => congrArg _ he)
    (fun _ _ => .find_self rfl (fun _ => rfl) fun _ => rfl) depth active s n

/-- States with the same pairs give the same outcome, and take the same messages. -/
theorem validate_congr (state state' : State) (h : state.active = state'.active) (g : Registry)
    (s : SchemaNode) (n : Instance) :
    (state.validate g s n).1 = (state'.validate g s n).1 ∧
      (state.validate g s n).2.2 = (state'.validate g s n).2.2 ∧
      ∃ added, (state.validate g s n).2.1.messages = state.messages ++ added ∧
        (state'.validate g s n).2.1.messages = state'.messages ++ added := by
  have hrun : Relates alike Eq (visit (depthBound g s n.value) state.active s n)
      (visit (depthBound g s n.value) state'.active s n) := by
    rw [h]
    exact relates_visit_alike _ _ s n
  obtain ⟨hg, ho, added, hm, hm'⟩ := Relates.validate state state' rfl hrun
  rw [show added.map alike.message = added from List.map_id added] at hm
  exact ⟨ho.eq rfl, hg, added, hm, hm'⟩

/-- Evaluations in two registries without fetchers that keep the same documents. The cause of a
failure may differ: a failure that is kept names the reference that was looked up first. -/
def replaying (g : Registry) : Link where
  registries a b := g.Replays a ∧ g.Replays b
  faults e e' := e = e' ∨ ∃ cause cause', e = .unresolved cause ∧ e' = .unresolved cause'
  message := id

theorem relates_find_replaying (g : Registry) (s : SchemaNode) (t : Target) :
    Relates (replaying g) Eq (Evaluation.find s t) (Evaluation.find s t) := by
  refine .find fun a b hab => ?_
  obtain ⟨ha, hlater⟩ := hab.1.find s t
  obtain ⟨hb, hlater'⟩ := hab.2.find s t
  refine ⟨⟨hlater, hlater'⟩, ?_⟩
  rw [← hb] at ha
  generalize (a.find s t).1 = x at ha ⊢
  generalize (b.find s t).1 = y at ha ⊢
  cases x with
  | ok s₁ =>
    cases y with
    | ok s₂ => exact .ok (Option.some.inj ha)
    | error cause => cases ha
  | error cause =>
    cases y with
    | ok s₂ => cases ha
    | error cause' => exact .error (.inr ⟨cause, cause', rfl, rfl⟩)

theorem relates_visit_replaying (g : Registry) (depth : Nat) (active : List Pair)
    (s : SchemaNode) (n : Instance) :
    Relates (replaying g) Eq (visit depth active s n) (visit depth active s n) := by
  refine relates_visit_self (L := replaying g) (fun _ => rfl) (.inl rfl) (fun _ => .inl rfl) ?_
    (relates_find_replaying g) depth active s n
  rintro active e e' (rfl | ⟨cause, cause', rfl, rfl⟩)
  · exact .inl rfl
  · exact .inr ⟨cause, cause', rfl, rfl⟩

/-- Registries without fetchers that keep the same documents give the same verdict, and the same
messages are taken. -/
theorem validate_of_replays {g g' : Registry} (h : g.Replays g') (hsize : g'.size = g.size)
    (state : State) (s : SchemaNode) (n : Instance) :
    (state.validate g' s n).1.toOption = (state.validate g s n).1.toOption ∧
      (state.validate g' s n).2.1.messages = (state.validate g s n).2.1.messages := by
  have hbound : depthBound g' s n.value = depthBound g s n.value := by
    rw [depthBound, depthBound, hsize]
  have hrun : Relates (replaying g) Eq (visit (depthBound g' s n.value) state.active s n)
      (visit (depthBound g s n.value) state.active s n) := by
    rw [hbound]
    exact relates_visit_replaying g _ _ s n
  have hlink : (replaying g).registries g' g := ⟨h, .refl h.offline⟩
  obtain ⟨-, ho, added, hm, hm'⟩ := Relates.validate state state hlink hrun
  rw [show added.map (replaying g).message = added from List.map_id added] at hm
  refine ⟨?_, hm.trans hm'.symm⟩
  generalize (state.validate g' s n).1 = x at ho ⊢
  generalize (state.validate g s n).1 = y at ho ⊢
  cases ho with
  | ok hb => rw [hb]
  | error he => rfl

/-- A test comes back, with a verdict or with a failure: no remainder was out of range. -/
def ComesBack (result : Except Fault Bool) : Prop :=
  ∀ active, result ≠ .error (.overflow active)

/-- **An evaluation leaves the pairs of its state as it found them** if it comes back, and adds
messages to those that it found. -/
theorem Tracking.run_visit (depth : Nat) (s : SchemaNode) (n : Instance) (p : Shared) :
    (ComesBack ((visit depth s n).run p).1 →
      ((visit depth s n).run p).2.state.active = p.state.active) ∧
    ∃ added, ((visit depth s n).run p).2.state.messages = p.state.messages ++ added := by
  obtain ⟨-, -, added, -, hm⟩ := relates_visit_alike depth p.state.active s n
    ⟨p.registry, p.state.messages⟩ ⟨p.registry, p.state.messages⟩ rfl
  rw [visit_eq, run_ofEvaluation]
  generalize (Validation.visit depth p.state.active s n).run _ = outcome at hm ⊢
  rcases outcome with ⟨e | b, q⟩
  · cases e with
    | overflow active => exact ⟨fun h => absurd rfl (h active), added, hm⟩
    | unresolved cause => exact ⟨fun _ => rfl, added, hm⟩
    | exhausted => exact ⟨fun _ => rfl, added, hm⟩
  · exact ⟨fun _ => rfl, added, hm⟩

theorem active_of_comesBack {state : State} {g : Registry} {s : SchemaNode} {n : Instance}
    (h : ComesBack (state.validate g s n).1) :
    (state.validate g s n).2.1.active = state.active := by
  have hrun := (Tracking.run_visit (depthBound g s n.value) s n ⟨g, state⟩).1
  rw [Tracking.run_visit_depthBound] at hrun
  exact hrun h

/-- The state and the registry after some validations, one after the other on one state that is
fresh at the beginning. -/
def validateAll (g : Registry) (calls : List Judgement) : State × Registry :=
  calls.foldl (fun p j => (p.1.validate p.2 j.1 j.2).2) ({}, g)

theorem validateAll_concat (g : Registry) (calls : List Judgement) (j : Judgement) :
    validateAll g (calls ++ [j]) =
      ((validateAll g calls).1.validate (validateAll g calls).2 j.1 j.2).2 :=
  List.foldl_concat ..

/-- A registry without fetchers comes to keep no document in the course of a run. -/
theorem replays_validateAll {g : Registry} (offline : g.fetchers = []) (calls : List Judgement) :
    g.Replays (validateAll g calls).2 ∧ (validateAll g calls).2.size = g.size := by
  induction calls using List.reverseRecOn with
  | nil => exact ⟨.refl offline, rfl⟩
  | append_singleton calls j ih =>
    rw [validateAll_concat]
    refine validate_keeps (I := fun a => g.Replays a ∧ a.size = g.size) ?_ _ ih j.1 j.2
    intro a s t ha
    exact ⟨(ha.1.find s t).2, (ha.1.size_find s t).trans ha.2⟩

/-- All validations of a run come back. -/
def AllComeBack (g : Registry) (calls : List Judgement) : Prop :=
  ∀ before j later, calls = before ++ j :: later →
    ComesBack ((validateAll g before).1.validate (validateAll g before).2 j.1 j.2).1

/-- No pair stays behind in the course of a run. -/
theorem active_validateAll {g : Registry} {calls : List Judgement} (h : AllComeBack g calls) :
    (validateAll g calls).1.active = [] := by
  induction calls using List.reverseRecOn with
  | nil => rfl
  | append_singleton calls j ih =>
    rw [validateAll_concat, active_of_comesBack (h calls j [] rfl)]
    refine ih fun before j' later he => h before j' (later ++ [j]) ?_
    rw [he, List.append_assoc, List.cons_append]

/-- **Validations on one state know nothing of each other.** A validation works on its state like
an evaluation that enters pairs and takes them out. Every such evaluation, however deep it is
nested, leaves the pairs as it found them if it comes back, and adds messages to those that it
found. So after any validations that came back, with a verdict or with a failure, a validation has
the outcome that it would have on a fresh state, adds the same messages and leaves the same
registry. Without fetchers, the registry knows nothing of them, either: on a fresh state and in the
registry as it was before them, the validation has the same verdict and adds the same messages. -/
theorem validate_on_shared_state (g : Registry) :
    (∀ state s n, (Tracking.visit (depthBound g s n.value) s n).run ⟨g, state⟩ =
      ((state.validate g s n).1, ⟨(state.validate g s n).2.2, (state.validate g s n).2.1⟩)) ∧
    (∀ depth s n p,
      (ComesBack ((Tracking.visit depth s n).run p).1 →
        ((Tracking.visit depth s n).run p).2.state.active = p.state.active) ∧
      ∃ added, ((Tracking.visit depth s n).run p).2.state.messages = p.state.messages ++ added) ∧
    ∀ calls state g', AllComeBack g calls → validateAll g calls = (state, g') → ∀ s n,
      (state.validate g' s n).1 = (State.validate {} g' s n).1 ∧
        (state.validate g' s n).2.1.messages =
          state.messages ++ (State.validate {} g' s n).2.1.messages ∧
        (state.validate g' s n).2.2 = (State.validate {} g' s n).2.2 ∧
        (g.fetchers = [] →
          (state.validate g' s n).1.toOption = (State.validate {} g s n).1.toOption ∧
          (state.validate g' s n).2.1.messages =
            state.messages ++ (State.validate {} g s n).2.1.messages) := by
  refine ⟨fun state s n => Tracking.run_visit_depthBound state g s n,
    fun depth s n p => Tracking.run_visit depth s n p, fun calls state g' hback hrun s n => ?_⟩
  have hactive := active_validateAll hback
  rw [hrun] at hactive
  obtain ⟨hresult, hregistry, added, hm, hfresh⟩ :=
    validate_congr state {} hactive g' s n
  rw [List.nil_append] at hfresh
  rw [← hfresh] at hm
  refine ⟨hresult, hm, hregistry, fun offline => ?_⟩
  obtain ⟨hreplays, hsize⟩ := replays_validateAll offline calls
  rw [hrun] at hreplays hsize
  obtain ⟨hverdict, hmessages⟩ := validate_of_replays hreplays hsize {} s n
  rw [hmessages] at hm
  rw [hresult]
  exact ⟨hverdict, hm⟩

/-- A schema with a reference to a document that is not there. -/
def broken : SchemaNode :=
  .of .empty (.obj [("type", .str "null"), ("$ref", .str "s:d")]) []

/-- A run of one validation, which fails after it has added a message. -/
def brokenRun : List Judgement :=
  [(broken, .root (.bool true))]

theorem validate_after_broken : AllComeBack (.fresh [] .standard) brokenRun ∧
    (∃ cause, (State.validate {} (.fresh [] .standard) broken (.root (.bool true))).1 =
      .error (.unresolved cause)) ∧
    ∀ state g', validateAll (.fresh [] .standard) brokenRun = (state, g') →
      state.messages.length = 1 ∧
      (state.validate g' broken (.root (.bool true))).2.1.messages.length = 2 := by
  have hbroken : ∃ cause, (State.validate {} (.fresh [] .standard) broken
      (.root (.bool true))).1 = .error (.unresolved cause) :=
    ⟨.fetch "s:d".toList (.unsupportedScheme ['s']), by cbv⟩
  have hback : AllComeBack (.fresh [] .standard) brokenRun := by
    intro before j later he active
    obtain ⟨cause, hcause⟩ := hbroken
    rcases before with - | ⟨first, rest⟩
    · obtain ⟨rfl, -⟩ := List.cons.inj he
      change (State.validate {} (.fresh [] .standard) broken (.root (.bool true))).1 ≠ _
      rw [hcause]
      intro hoverflow
      cases hoverflow
    · simp [brokenRun] at he
  have hfresh : (State.validate {} (.fresh [] .standard) broken (.root (.bool true))).2.1.messages =
      [⟨[], "type", .wrongType ["null"] false .boolean⟩] := by
    cbv
  refine ⟨hback, hbroken, fun state g' hrun => ?_⟩
  have hfirst : state.messages = [⟨[], "type", .wrongType ["null"] false .boolean⟩] := by
    rw [← hfresh, ← congrArg (·.1.messages) hrun]
    rfl
  obtain ⟨-, -, -, hoffline⟩ := (validate_on_shared_state (.fresh [] .standard)).2.2 _ _ _ hback
    hrun broken (.root (.bool true))
  rw [(hoffline rfl).2, hfirst, hfresh]
  exact ⟨rfl, rfl⟩

end JsonSchema.Validation
