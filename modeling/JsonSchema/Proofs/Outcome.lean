import JsonSchema.Proofs.Evaluation
import JsonSchema.Proofs.Registry
import Mathlib

/-!
# Outcomes of evaluations

What comes out of an evaluation in a registry without fetchers, as a function of the schema and the
node: a verdict, or nothing if the evaluation ends with a fault. Neither the messages nor the
failures that the registry keeps make a difference.

* `Validation.outcome`: the outcome, by recursion on the nesting.
* `Evaluation.ComesTo`: a computation comes to an outcome, with one rule for each way of putting
  computations together.
* `Evaluation.comesTo_visit`: an evaluation comes to its outcome.
* `Validation.conjunction_perm`: tests that all have to be passed may come in any order.
-/

namespace JsonSchema.Validation

/-! ## Combined tests -/

/-- Whether all tests are passed, if each of them has an outcome. -/
def conjunction : List (Option Bool) → Option Bool
  | [] => some true
  | test :: rest => do
    let passed ← test
    let others ← conjunction rest
    return passed && others

/-- Whether one of some tests is passed, if each test before it has an outcome. -/
def disjunction : List (Option Bool) → Option Bool
  | [] => some false
  | test :: rest => do
    if ← test then some true else disjunction rest

/-- Whether a value passes, by the verdict on it: `sees` gives schemas and `eval` evaluates them. -/
def Verdict.outcome (sees : Target → Option SchemaNode) (eval : SchemaNode → Option Bool) :
    Verdict → Option Bool
  | .passed => some true
  | .failed _ => some false
  | .deferred target => (sees target).bind eval
  | .anyOf targets _ => (targets.mapM sees).bind fun schemas => disjunction (schemas.map eval)
  | .noneOf targets _ =>
    ((targets.mapM sees).bind fun schemas => disjunction (schemas.map eval)).map (!·)
  | .overflow => none

/-- Whether an instance is valid against a schema, as an evaluation finds out. -/
def outcome (g : Registry) : Nat → List Pair → SchemaNode → Instance → Option Bool
  | 0, _, _, _ => none
  | depth + 1, active, s, n =>
    if active.contains (pairOf s n) then some true
    else
      (conjunction ((Constraint.forType s.raw n.type).map fun c =>
        Verdict.outcome (g.seen? s) (outcome g depth (pairOf s n :: active) · n)
          (c.judge n.value))).bind fun passed =>
      if passed then
        conjunction (n.children.map fun child =>
          conjunction (((Routing.of n.type s.raw).childTargets s child).map fun t =>
            (g.seen? s t).bind (outcome g depth (pairOf s n :: active) · child)))
      else some false

theorem conjunction_swap (a b : Option Bool) (rest : List (Option Bool)) :
    conjunction (a :: b :: rest) = conjunction (b :: a :: rest) := by
  cases a <;> cases b <;> cases hrest : conjunction rest <;>
    simp [conjunction, hrest, Bool.and_left_comm]

/-- **Tests that all have to be passed may come in any order.** -/
theorem conjunction_perm {tests tests' : List (Option Bool)} (h : tests.Perm tests') :
    conjunction tests = conjunction tests' := by
  induction h with
  | nil => rfl
  | cons test _ ih => rw [conjunction, conjunction, ih]
  | swap a b rest => exact conjunction_swap b a rest
  | trans _ _ ih ih' => exact ih.trans ih'

/-- Schemas may be looked up all at once, before they are tested. -/
theorem mapM_bind_conjunction (sees : Target → Option SchemaNode) (eval : SchemaNode → Option Bool)
    (targets : List Target) :
    ((targets.mapM sees).bind fun schemas => conjunction (schemas.map eval)) =
      conjunction (targets.map fun t => (sees t).bind eval) := by
  induction targets with
  | nil => rfl
  | cons t rest ih =>
    rw [List.map_cons, conjunction, ← ih, List.mapM_cons]
    cases sees t with
    | none => rfl
    | some s =>
      cases rest.mapM sees with
      | none => cases heval : eval s <;> simp [heval]
      | some schemas => rfl

namespace Evaluation

variable {α β : Type} {g : Registry}

/-! ## Computations and their outcomes -/

/-- A computation comes to an outcome in each registry that keeps the documents of `g`: the same
value at any time, or some fault. -/
def ComesTo (g : Registry) (x : Evaluation α) (o : Option α) : Prop :=
  ∀ p : Progress, g.Replays p.registry →
    (x.run p).1.toOption = o ∧ g.Replays (x.run p).2.registry

namespace ComesTo

variable {x : Evaluation α} {o : Option α}

theorem pure (a : α) : ComesTo g (Pure.pure a) (some a) :=
  fun _ hp => ⟨rfl, hp⟩

theorem throw (e : Fault) : ComesTo g (MonadExcept.throw e : Evaluation α) none :=
  fun _ hp => ⟨rfl, hp⟩

theorem bind {f : α → Evaluation β} {k : α → Option β} (h : ComesTo g x o)
    (hf : ∀ a, o = some a → ComesTo g (f a) (k a)) : ComesTo g (x >>= f) (o.bind k) := by
  intro p hp
  obtain ⟨hx, hq⟩ := h p hp
  rw [run_bind]
  rcases hrun : x.run p with ⟨r, q⟩
  rw [hrun] at hx hq
  cases r with
  | error e =>
    subst hx
    exact ⟨rfl, hq⟩
  | ok a =>
    subst hx
    exact hf a rfl q hq

theorem report (n : Instance) (keyword : String) (violations : List Violation) :
    ComesTo g (Evaluation.report n keyword violations) (some ()) :=
  fun _ hp => ⟨rfl, hp⟩

theorem find (s : SchemaNode) (t : Target) : ComesTo g (Evaluation.find s t) (g.seen? s t) := by
  intro p hp
  obtain ⟨hfound, hlater⟩ := hp.find s t
  rw [run_find, ← hfound]
  refine ⟨?_, hlater⟩
  cases (p.registry.find s t).1 <;> rfl

theorem findAll (s : SchemaNode) (targets : List Target) :
    ComesTo g (Evaluation.findAll s targets) (targets.mapM (g.seen? s)) := by
  induction targets with
  | nil => exact pure []
  | cons t rest ih =>
    rw [List.mapM_cons]
    exact (find s t).bind fun a _ => ih.bind fun as _ => pure (a :: as)

theorem all {f : β → Evaluation Bool} {k : β → Option Bool} {xs : List β}
    (h : ∀ b ∈ xs, ComesTo g (f b) (k b)) :
    ComesTo g (Evaluation.all (xs.map f)) (conjunction (xs.map k)) := by
  induction xs with
  | nil => exact pure true
  | cons b rest ih =>
    refine (h b List.mem_cons_self).bind fun passed _ => ?_
    refine (ih fun b' hb' => h b' (.tail _ hb')).bind fun others _ => ?_
    exact pure (passed && others)

theorem any {f : β → Evaluation Bool} {k : β → Option Bool} {xs : List β}
    (h : ∀ b ∈ xs, ComesTo g (f b) (k b)) :
    ComesTo g (Evaluation.any (xs.map f)) (disjunction (xs.map k)) := by
  induction xs with
  | nil => exact pure false
  | cons b rest ih =>
    refine (h b List.mem_cons_self).bind fun passed _ => ?_
    cases passed with
    | true => exact pure true
    | false => exact ih fun b' hb' => h b' (.tail _ hb')

theorem silently {x : Evaluation Bool} {o : Option Bool} (active : List Pair)
    (h : ComesTo g x o) : ComesTo g (Evaluation.silently active x) o := by
  intro p hp
  obtain ⟨hx, hq⟩ := h ⟨p.registry, []⟩ hp
  rw [run_silently, ← hx]
  refine ⟨?_, hq⟩
  cases (x.run ⟨p.registry, []⟩).1 <;> rfl

theorem orReport (passed : Bool) (n : Instance) (keyword : String) (violation : Violation) :
    ComesTo g (Evaluation.orReport passed n keyword violation) (some passed) := by
  cases passed with
  | true => exact pure true
  | false => exact (report n keyword [violation]).bind fun _ _ => pure false

end ComesTo

/-! ## Evaluations -/

section Steps

variable {visit : SchemaNode → Instance → Evaluation Bool} {s : SchemaNode} {n : Instance}
  {eval : SchemaNode → Option Bool}

theorem comesTo_attempts (active : List Pair) (targets : List Target)
    (h : ∀ s', ComesTo g (visit s' n) (eval s')) :
    ComesTo g (findAll s targets >>= fun schemas =>
        any (schemas.map fun s' => silently active (visit s' n)))
      ((targets.mapM (g.seen? s)).bind fun schemas => disjunction (schemas.map eval)) :=
  (ComesTo.findAll s targets).bind fun _ _ => .any fun s' _ => .silently active (h s')

/-- **A constraint comes to the outcome of its verdict.** -/
theorem comesTo_passes (active : List Pair) (c : Constraint)
    (h : ∀ s', ComesTo g (visit s' n) (eval s')) :
    ComesTo g (passes visit active s n c)
      (Verdict.outcome (g.seen? s) eval (c.judge n.value)) := by
  unfold passes
  cases c.judge n.value with
  | passed => exact .pure true
  | failed violations => exact (ComesTo.report n c.keyword violations).bind fun _ _ => .pure false
  | deferred target => exact (ComesTo.find s target).bind fun s' _ => h s'
  | anyOf targets otherwise =>
    have hreport := (comesTo_attempts (s := s) active targets h).bind
      fun accepted _ => ComesTo.orReport accepted n c.keyword otherwise
    rw [bind_assoc, Option.bind_fun_some] at hreport
    exact hreport
  | noneOf targets otherwise =>
    have hreport := (comesTo_attempts (s := s) active targets h).bind
      fun accepted _ => ComesTo.orReport (!accepted) n c.keyword otherwise
    rw [bind_assoc] at hreport
    rw [Verdict.outcome, Option.map_eq_bind]
    exact hreport
  | overflow => exact .throw (.overflow active)

theorem comesTo_childPasses (routing : Routing) {child : Instance}
    (h : ∀ s', ComesTo g (visit s' child) (eval s')) :
    ComesTo g (childPasses visit s routing child)
      (conjunction ((routing.childTargets s child).map fun t => (g.seen? s t).bind eval)) := by
  rw [← mapM_bind_conjunction]
  exact (ComesTo.findAll s _).bind fun _ _ => .all fun s' _ => h s'

end Steps

/-- **An evaluation comes to its outcome.** -/
theorem comesTo_visit (depth : Nat) (active : List Pair) (s : SchemaNode) (n : Instance) :
    ComesTo g (visit depth active s n) (outcome g depth active s n) := by
  induction depth generalizing active s n with
  | zero => exact .throw .exhausted
  | succ depth ih =>
    rw [outcome]
    by_cases hm : pairOf s n ∈ active
    · rw [visit_of_mem hm, if_pos (List.contains_iff_mem.2 hm)]
      exact .pure true
    · rw [visit_of_notMem hm, if_neg fun hc => hm (List.contains_iff_mem.1 hc)]
      refine (ComesTo.all fun c _ => comesTo_passes _ c fun s' => ih _ s' n).bind fun passed _ => ?_
      cases passed with
      | false => exact .pure false
      | true => exact .all fun child _ => comesTo_childPasses _ fun s' => ih _ s' child

end Evaluation

end JsonSchema.Validation
