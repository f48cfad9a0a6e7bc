import JsonSchema.Proofs.Remainder
import Mathlib

/-!
# Verdicts and messages

The verdict of an evaluation and its messages travel apart: attempts with the schemas of a union
leave no messages, a pair that is being evaluated counts as valid without any, and the verdicts of
constraints and children are put together while their messages pile up. They agree all the same.

* `Constraint.ne_nil_of_judge`: a constraint that a value fails gives at least one violation.
* `Tells`: what a computation adds to the messages, one rule for each way of putting them together.
* `tells_visit`: an evaluation adds no message if it passes, and at least one if it does not.
* `messages_of_verdict`: the same for validations and for reports.
-/

namespace JsonSchema

/-! ## Violations -/

namespace Verdict

/-- A verdict that a value fails a constraint comes with violations. -/
def IsExplained : Verdict → Prop
  | failed violations => violations ≠ []
  | _ => True

@[simp] theorem isExplained_require (condition : Bool) (otherwise : Violation) :
    (require condition otherwise).IsExplained := by
  cases condition
  · exact List.cons_ne_nil _ _
  · trivial

@[simp] theorem isExplained_ofViolations (violations : List Violation) :
    (ofViolations violations).IsExplained := by
  cases violations with
  | nil => trivial
  | cons v rest => exact List.cons_ne_nil v rest

end Verdict

namespace Constraint

theorem isExplained_judgeBound (side : Side) (limit : Number) (exclusive : Bool) (n : Number) :
    (judgeBound side limit exclusive n).IsExplained := by
  simp only [judgeBound]
  split
  · exact List.cons_ne_nil _ _
  · exact Verdict.isExplained_require _ _

theorem isExplained_judgeDivisor (divisor n : Number) :
    (judgeDivisor divisor n).IsExplained := by
  unfold judgeDivisor
  split
  · exact Verdict.isExplained_require _ _
  · trivial

theorem isExplained_judgePattern (source text : String) :
    (judgePattern source text).IsExplained := by
  unfold judgePattern
  split
  · exact Verdict.isExplained_require _ _
  · exact List.cons_ne_nil _ _

theorem isExplained_judge (c : Constraint) (v : Json) : (c.judge v).IsExplained := by
  fun_cases judge c v
  case case11 => exact isExplained_judgeBound _ _ _ _
  case case12 => exact isExplained_judgeDivisor _ _
  case case14 => exact isExplained_judgePattern _ _
  all_goals first
    | trivial
    | exact List.cons_ne_nil _ _
    | simp

/-- **A constraint that a value fails gives at least one violation.** -/
theorem ne_nil_of_judge {c : Constraint} {v : Json} {violations : List Violation}
    (h : c.judge v = .failed violations) : violations ≠ [] := by
  have he := isExplained_judge c v
  rwa [h] at he

end Constraint

namespace Validation

namespace Evaluation

variable {α β : Type}

/-! ## Messages of computations -/

/-- A computation adds messages to those that are there; what it adds fits the value that it
returns. -/
def Tells (x : Evaluation α) (Q : α → List Message → Prop) : Prop :=
  ∀ p, ∃ added, (x.run p).2.messages = p.messages ++ added ∧ ∀ a, (x.run p).1 = .ok a → Q a added

/-- A test is passed if there are no messages, and only then. -/
def Agree (passed : Bool) (added : List Message) : Prop :=
  passed = true ↔ added = []

theorem Agree.and {a b : Bool} {added more : List Message} (ha : Agree a added)
    (hb : Agree b more) : Agree (a && b) (added ++ more) := by
  rw [Agree, Bool.and_eq_true, List.append_eq_nil_iff]
  exact and_congr ha hb

namespace Tells

variable {x : Evaluation α} {Q : α → List Message → Prop}

theorem mono {Q' : α → List Message → Prop} (h : Tells x Q)
    (hQ : ∀ a added, Q a added → Q' a added) : Tells x Q' := by
  intro p
  obtain ⟨added, hm, hr⟩ := h p
  exact ⟨added, hm, fun a ha => hQ a added (hr a ha)⟩

theorem pure {a : α} (h : Q a []) : Tells (Pure.pure a) Q := by
  refine fun p => ⟨[], (List.append_nil p.messages).symm, fun b hb => ?_⟩
  cases hb
  exact h

theorem throw {e : Fault} : Tells (MonadExcept.throw e : Evaluation α) Q :=
  fun p => ⟨[], (List.append_nil p.messages).symm, nofun⟩

theorem bind {f : α → Evaluation β} {P : α → List Message → Prop} {Q : β → List Message → Prop}
    (hx : Tells x P)
    (hf : ∀ a added, P a added → Tells (f a) fun b more => Q b (added ++ more)) :
    Tells (x >>= f) Q := by
  intro p
  obtain ⟨added, hm, hr⟩ := hx p
  rw [run_bind]
  rcases h : x.run p with ⟨r, q⟩
  rw [h] at hm hr
  cases r with
  | error e => exact ⟨added, hm, nofun⟩
  | ok a =>
    obtain ⟨more, hm', hr'⟩ := hf a added (hr a rfl) q
    exact ⟨added ++ more, by rw [hm', hm, List.append_assoc], hr'⟩

theorem report (n : Instance) (keyword : String) {violations : List Violation}
    (h : violations ≠ []) :
    Tells (Evaluation.report n keyword violations) fun _ added => added ≠ [] := by
  refine fun p => ⟨violations.map (⟨n.pointer, keyword, ·⟩), rfl, fun _ _ he => h ?_⟩
  exact List.map_eq_nil_iff.1 he

theorem find (schema : SchemaNode) (target : Target) :
    Tells (Evaluation.find schema target) fun _ added => added = [] :=
  fun p => ⟨[], (List.append_nil p.messages).symm, fun _ _ => rfl⟩

theorem findAll (schema : SchemaNode) (targets : List Target) :
    Tells (Evaluation.findAll schema targets) fun _ added => added = [] := by
  induction targets with
  | nil => exact pure rfl
  | cons t rest ih =>
    refine bind (find schema t) ?_
    rintro s _ rfl
    refine bind ih ?_
    rintro ss _ rfl
    exact pure rfl

/-- An attempt adds no message, whatever its outcome. -/
theorem silently (active : List Pair) (x : Evaluation Bool) :
    Tells (Evaluation.silently active x) fun _ added => added = [] := by
  intro p
  rw [run_silently]
  exact ⟨[], (List.append_nil p.messages).symm, fun _ _ => rfl⟩

theorem any {xs : List (Evaluation Bool)}
    (h : ∀ x ∈ xs, Tells x fun _ added => added = []) :
    Tells (Evaluation.any xs) fun _ added => added = [] := by
  induction xs with
  | nil => exact pure rfl
  | cons x rest ih =>
    refine bind (h x (by simp)) ?_
    rintro passed _ rfl
    cases passed with
    | true => exact pure rfl
    | false => exact ih fun y hy => h y (by simp [hy])

theorem all {xs : List (Evaluation Bool)} (h : ∀ x ∈ xs, Tells x Agree) :
    Tells (Evaluation.all xs) Agree := by
  induction xs with
  | nil => exact pure (iff_of_true rfl rfl)
  | cons x rest ih =>
    refine bind (h x (by simp)) fun first added hfirst => ?_
    refine bind (ih fun y hy => h y (by simp [hy])) fun others more hothers => ?_
    exact pure ((List.append_nil more).symm ▸ hfirst.and hothers)

theorem orReport (passed : Bool) (n : Instance) (keyword : String) (violation : Violation) :
    Tells (Evaluation.orReport passed n keyword violation) Agree := by
  cases passed with
  | true => exact pure (iff_of_true rfl rfl)
  | false =>
    refine bind (report n keyword (List.cons_ne_nil violation [])) fun _ added hne => ?_
    exact pure (iff_of_false Bool.false_ne_true ((List.append_nil added).symm ▸ hne))

end Tells

/-! ## Messages of evaluations -/

section Steps

variable {visit : SchemaNode → Instance → Evaluation Bool} {schema : SchemaNode} {n : Instance}

/-- Attempts with some schemas, and the message that is reported after them. -/
theorem tells_attempts (active : List Pair) (targets : List Target) (c : Constraint)
    (violation : Violation) (accepts : Bool → Bool) :
    Tells (findAll schema targets >>= fun schemas =>
        any (schemas.map fun s => silently active (visit s n)) >>= fun accepted =>
          orReport (accepts accepted) n c.keyword violation) Agree := by
  refine .bind (.findAll schema targets) ?_
  rintro schemas _ rfl
  refine .bind (.any fun x hx => ?_) ?_
  · obtain ⟨s, -, rfl⟩ := List.mem_map.1 hx
    exact .silently active _
  · rintro accepted _ rfl
    exact .orReport _ n c.keyword violation

/-- **A constraint adds messages exactly if it is not passed**, if other schemas do so. -/
theorem tells_passes (h : ∀ s, Tells (visit s n) Agree) (active : List Pair) (c : Constraint) :
    Tells (passes visit active schema n c) Agree := by
  unfold passes
  cases hc : c.judge n.value with
  | passed => exact .pure (iff_of_true rfl rfl)
  | failed violations =>
    refine .bind (.report n c.keyword (Constraint.ne_nil_of_judge hc)) fun _ added hne => ?_
    exact .pure (iff_of_false Bool.false_ne_true ((List.append_nil added).symm ▸ hne))
  | deferred target =>
    refine .bind (.find schema target) ?_
    rintro s _ rfl
    exact h s
  | anyOf targets otherwise => exact tells_attempts active targets c otherwise id
  | noneOf targets otherwise => exact tells_attempts active targets c otherwise not
  | overflow => exact .throw

/-- A child adds messages exactly if it is not passed, if schemas do so. -/
theorem tells_childPasses {child : Instance} (h : ∀ s, Tells (visit s child) Agree)
    (routing : Routing) : Tells (childPasses visit schema routing child) Agree := by
  refine .bind (.findAll schema _) ?_
  rintro schemas _ rfl
  refine .all fun x hx => ?_
  obtain ⟨s, -, rfl⟩ := List.mem_map.1 hx
  exact h s

end Steps

/-- **An evaluation adds messages exactly if it is not passed.** The induction is on the nesting. -/
theorem tells_visit (depth : Nat) (active : List Pair) (schema : SchemaNode) (n : Instance) :
    Tells (visit depth active schema n) Agree := by
  induction depth generalizing active schema n with
  | zero => exact .throw
  | succ depth ih =>
    by_cases hm : pairOf schema n ∈ active
    · rw [visit_of_mem hm]
      exact .pure (iff_of_true rfl rfl)
    rw [visit_of_notMem hm]
    refine .bind (P := Agree) (.all fun x hx => ?_) fun passed added hpassed => ?_
    · obtain ⟨c, -, rfl⟩ := List.mem_map.1 hx
      exact tells_passes (fun s => ih _ s n) _ c
    cases passed with
    | false => exact .pure ((List.append_nil added).symm ▸ hpassed)
    | true =>
      obtain rfl : added = [] := hpassed.1 rfl
      refine .all fun x hx => ?_
      obtain ⟨child, -, rfl⟩ := List.mem_map.1 hx
      exact tells_childPasses (fun s => ih _ s child) _

end Evaluation

/-! ## Validations and reports -/

open Evaluation

/-- A validation that has a verdict adds messages exactly if the verdict is that the value is not
valid. -/
theorem exists_added_of_validate {state : State} {g : Registry} {schema : SchemaNode}
    {n : Instance} {b : Bool} (h : (state.validate g schema n).1 = .ok b) :
    ∃ added, (state.validate g schema n).2.1.messages = state.messages ++ added ∧
      (b = true ↔ added = []) := by
  unfold State.validate at h ⊢
  obtain ⟨added, hm, hr⟩ :=
    tells_visit (depthBound g schema n.value) state.active schema n ⟨g, state.messages⟩
  exact ⟨added, hm, hr b h⟩

/-- A report is valid exactly if it has no messages. -/
theorem valid_iff_of_validate {schema : SchemaNode} {g : Registry} {value : Json} {report : Report}
    (h : (schema.validate g value).1 = .ok report) :
    report.valid = true ↔ report.messages = [] := by
  rw [Registry.validate_fst] at h
  obtain ⟨b, hb, rfl⟩ := Uri.map_eq_ok_iff.1 h
  obtain ⟨added, hm, hadded⟩ := exists_added_of_validate hb
  rw [List.nil_append] at hm
  rw [hm]
  exact hadded

/-- **Verdict and messages agree.** A validation in any state only adds to the messages. If it has
a verdict, it added none exactly if the value is valid. A report, of a node of a schema or of a
reference, is valid exactly if it has no messages. -/
theorem messages_of_verdict (state : State) (g : Registry) (schema : SchemaNode) (n : Instance) :
    (∀ b, (state.validate g schema n).1 = .ok b →
      ∃ added, (state.validate g schema n).2.1.messages = state.messages ++ added ∧
        (b = true → added = []) ∧ (b = false → 1 ≤ added.length)) ∧
    (∀ value report, (schema.validate g value).1 = .ok report →
      (report.valid = true ↔ report.messages = [])) ∧
    ∀ r value report, (g.validate r value).1 = .ok report →
      (report.valid = true ↔ report.messages = []) := by
  refine ⟨fun b h => ?_, fun value report => valid_iff_of_validate, fun r value report h => ?_⟩
  · obtain ⟨added, hm, hadded⟩ := exists_added_of_validate h
    refine ⟨added, hm, hadded.1, fun hb => List.length_pos_iff.2 fun he => ?_⟩
    rw [hadded.2 he] at hb
    cases hb
  · rcases hs : g.getSchema r with ⟨cause | s, g'⟩
    · simp only [Registry.validate, hs] at h
      cases h
    · rw [Registry.validate_of_getSchema hs] at h
      exact valid_iff_of_validate h

/-- A schema that only `null` is valid against. -/
def nullOnly : SchemaNode :=
  .of .empty (.obj [("type", .str "null")]) []

theorem messages_nullOnly :
    (State.validate {} (.fresh [] .standard) nullOnly (.root (.bool true))).1 = .ok false ∧
      (∃ added, (State.validate {} (.fresh [] .standard) nullOnly
        (.root (.bool true))).2.1.messages = [] ++ added ∧ 1 ≤ added.length) ∧
      ∃ report, (nullOnly.validate (.fresh [] .standard) .null).1 = .ok report ∧
        report.messages = [] := by
  have hfails : (State.validate {} (.fresh [] .standard) nullOnly (.root (.bool true))).1 =
      .ok false := by
    cbv
  have hpasses : (nullOnly.validate (.fresh [] .standard) .null).1 = .ok ⟨true, []⟩ := by
    cbv
  obtain ⟨hverdict, hreport, -⟩ :=
    messages_of_verdict {} (.fresh [] .standard) nullOnly (.root (.bool true))
  obtain ⟨added, hm, -, hone⟩ := hverdict false hfails
  exact ⟨hfails, ⟨added, hm, hone rfl⟩, _, hpasses, (hreport .null _ hpasses).1 rfl⟩

end Validation

end JsonSchema
