import JsonSchema.Proofs.Evaluation
import Mathlib

/-!
# Evaluations side by side

Two evaluations may go the same way although their surroundings differ: the registries, the bounds
on the nesting, the pairs that are being evaluated, the pointers of the nodes. A `Link` says how
registries, faults and messages of the one answer those of the other.

`Relates L Q x y` says that the computations `x` and `y`, run in linked registries, leave linked
registries and report linked messages, and that their outcomes are values related by `Q` or linked
faults. There is one rule for each way of putting evaluations together.

* `Relates.passes`, `Relates.childPasses`: the steps of an evaluation.
* `Frame`: what an evaluation is entered with; `Relates.visit_entered`: one step of two of them.
* `IsSimulation`: a relation between frames that holds again for what they look up.
* `IsSimulation.relates_visit`: evaluations of related frames go side by side.
* `relates_visit_self`: so do two evaluations of one frame.
* `Relates.validate`: so do validations.
-/

namespace JsonSchema.Validation

/-- What an evaluation is entered with: the pairs that are being evaluated, a schema and a node. -/
structure Frame where
  active : List Pair
  schema : SchemaNode
  node : Instance

namespace Frame

/-- The pair that is to be evaluated. -/
def pair (F : Frame) : Pair :=
  pairOf F.schema F.node

/-- The pairs that are being evaluated while this one is. -/
def entered (F : Frame) : List Pair :=
  F.pair :: F.active

end Frame

namespace Evaluation

variable {α β γ δ : Type}

/-- How the surroundings of two evaluations answer each other. -/
structure Link where
  registries : Registry → Registry → Prop
  faults : Fault → Fault → Prop
  /-- The message of the first evaluation that answers one of the second. -/
  message : Message → Message

/-- Two outcomes that answer each other: related values, or linked faults. -/
inductive Link.Outcomes (L : Link) (Q : α → β → Prop) : Except Fault α → Except Fault β → Prop
  | ok {a : α} {b : β} (h : Q a b) : Outcomes L Q (.ok a) (.ok b)
  | error {e e' : Fault} (h : L.faults e e') : Outcomes L Q (.error e) (.error e')

theorem Link.Outcomes.eq {L : Link} {a b : Except Fault α} (hL : L.faults = Eq)
    (h : L.Outcomes Eq a b) : a = b := by
  cases h with
  | ok h => rw [h]
  | error h =>
    rw [hL] at h
    rw [h]

/-- What an attempt makes of a fault: the pairs that were left active inside are forgotten. -/
def forgetting (active : List Pair) : Fault → Fault
  | .overflow _ => .overflow active
  | fault => fault

/-- Two computations do the same, each in its surroundings. -/
def Relates (L : Link) (Q : α → β → Prop) (x : Evaluation α) (y : Evaluation β) : Prop :=
  ∀ p q : Progress, L.registries p.registry q.registry →
    L.registries (x.run p).2.registry (y.run q).2.registry ∧
      L.Outcomes Q (x.run p).1 (y.run q).1 ∧
      ∃ added, (x.run p).2.messages = p.messages ++ added.map L.message ∧
        (y.run q).2.messages = q.messages ++ added

namespace Relates

variable {L : Link} {x : Evaluation α} {y : Evaluation β} {Q : α → β → Prop}

theorem pure {a : α} {b : β} (h : Q a b) : Relates L Q (Pure.pure a) (Pure.pure b) :=
  fun p q hg =>
    ⟨hg, .ok h, [], (List.append_nil p.messages).symm, (List.append_nil q.messages).symm⟩

theorem throw {e e' : Fault} (h : L.faults e e') :
    Relates L Q (MonadExcept.throw e : Evaluation α) (MonadExcept.throw e' : Evaluation β) :=
  fun p q hg =>
    ⟨hg, .error h, [], (List.append_nil p.messages).symm, (List.append_nil q.messages).symm⟩

theorem mono {R : α → β → Prop} (h : Relates L Q x y) (hQ : ∀ a b, Q a b → R a b) :
    Relates L R x y := by
  intro p q hg
  obtain ⟨hg', ho, hadded⟩ := h p q hg
  refine ⟨hg', ?_, hadded⟩
  generalize (x.run p).1 = a at ho ⊢
  generalize (y.run q).1 = b at ho ⊢
  cases ho with
  | ok hab => exact .ok (hQ _ _ hab)
  | error he => exact .error he

theorem bind {f : α → Evaluation γ} {f' : β → Evaluation δ} {R : γ → δ → Prop}
    (h : Relates L Q x y) (hf : ∀ a b, Q a b → Relates L R (f a) (f' b)) :
    Relates L R (x >>= f) (y >>= f') := by
  intro p q hg
  obtain ⟨hg', ho, added, hp, hq⟩ := h p q hg
  rw [run_bind, run_bind]
  rcases hx : x.run p with ⟨a, p'⟩
  rcases hy : y.run q with ⟨b, q'⟩
  rw [hx, hy] at ho
  rw [hx] at hg' hp
  rw [hy] at hg' hq
  cases ho with
  | error he => exact ⟨hg', .error he, added, hp, hq⟩
  | ok hab =>
    obtain ⟨hlater, ho, more, hp', hq'⟩ := hf _ _ hab p' q' hg'
    refine ⟨hlater, ho, added ++ more, ?_, ?_⟩
    · rw [hp', hp, List.map_append, List.append_assoc]
    · rw [hq', hq, List.append_assoc]

/-- Reports of the same violations at nodes whose messages are linked. -/
theorem report {R : Unit → Unit → Prop} {n n' : Instance} {keyword : String}
    (hm : ∀ violation, L.message ⟨n'.pointer, keyword, violation⟩ = ⟨n.pointer, keyword, violation⟩)
    (violations : List Violation) (h : R () ()) :
    Relates L R (Evaluation.report n keyword violations)
      (Evaluation.report n' keyword violations) := by
  refine fun p q hg => ⟨hg, .ok h, violations.map (⟨n'.pointer, keyword, ·⟩), ?_, rfl⟩
  simp only [List.map_map, Function.comp_def, hm]
  rfl

/-- Look-ups, from what they do in linked registries. -/
theorem find {s s' : SchemaNode} {t : Target} {R : SchemaNode → SchemaNode → Prop}
    (h : ∀ g g', L.registries g g' → L.registries (g.find s t).2 (g'.find s' t).2 ∧
      L.Outcomes R ((g.find s t).1.mapError .unresolved) ((g'.find s' t).1.mapError .unresolved)) :
    Relates L R (Evaluation.find s t) (Evaluation.find s' t) := by
  intro p q hg
  obtain ⟨hg', ho⟩ := h _ _ hg
  rw [run_find, run_find]
  exact ⟨hg', ho, [], (List.append_nil p.messages).symm, (List.append_nil q.messages).symm⟩

/-- One look-up in one registry. -/
theorem find_self {s : SchemaNode} {t : Target} {R : SchemaNode → SchemaNode → Prop}
    (hg : L.registries = Eq) (he : ∀ cause, L.faults (.unresolved cause) (.unresolved cause))
    (h : ∀ a, R a a) : Relates L R (Evaluation.find s t) (Evaluation.find s t) := by
  refine find fun g g' hgg' => ?_
  rw [hg] at hgg' ⊢
  subst hgg'
  refine ⟨rfl, ?_⟩
  cases (g.find s t).1 with
  | ok a => exact .ok (h a)
  | error cause => exact .error (he cause)

theorem findAll {s s' : SchemaNode} {R : SchemaNode → SchemaNode → Prop} {targets : List Target}
    (h : ∀ t ∈ targets, Relates L R (Evaluation.find s t) (Evaluation.find s' t)) :
    Relates L (List.Forall₂ R) (Evaluation.findAll s targets)
      (Evaluation.findAll s' targets) := by
  induction targets with
  | nil => exact pure .nil
  | cons t rest ih =>
    refine bind (h t (by simp)) fun a b hab => ?_
    refine bind (ih fun t' ht' => h t' (by simp [ht'])) fun as bs habs => ?_
    exact pure (.cons hab habs)

theorem all {xs ys : List (Evaluation Bool)} (h : List.Forall₂ (Relates L Eq) xs ys) :
    Relates L Eq (Evaluation.all xs) (Evaluation.all ys) := by
  induction h with
  | nil => exact pure rfl
  | cons hxy _ ih =>
    refine bind hxy fun first _ he => bind ih fun others _ he' => pure ?_
    rw [he, he']

theorem any {xs ys : List (Evaluation Bool)} (h : List.Forall₂ (Relates L Eq) xs ys) :
    Relates L Eq (Evaluation.any xs) (Evaluation.any ys) := by
  induction h with
  | nil => exact pure rfl
  | cons hxy _ ih =>
    refine bind hxy fun first _ he => ?_
    subst he
    cases first with
    | true => exact pure rfl
    | false => exact ih

theorem silently {x y : Evaluation Bool} {active active' : List Pair}
    (hf : ∀ e e', L.faults e e' → L.faults (forgetting active e) (forgetting active' e'))
    (h : Relates L Eq x y) :
    Relates L Eq (Evaluation.silently active x) (Evaluation.silently active' y) := by
  intro p q hg
  obtain ⟨hg', ho, -⟩ := h ⟨p.registry, []⟩ ⟨q.registry, []⟩ hg
  rw [run_silently, run_silently]
  refine ⟨hg', ?_, [], (List.append_nil p.messages).symm, (List.append_nil q.messages).symm⟩
  generalize (x.run ⟨p.registry, []⟩).1 = a at ho ⊢
  generalize (y.run ⟨q.registry, []⟩).1 = b at ho ⊢
  cases ho with
  | ok hab => exact .ok hab
  | error he => exact .error (hf _ _ he)

theorem orReport {passed passed' : Bool} {n n' : Instance} {keyword : String}
    (hm : ∀ violation, L.message ⟨n'.pointer, keyword, violation⟩ = ⟨n.pointer, keyword, violation⟩)
    (violation : Violation) (h : passed = passed') :
    Relates L Eq (Evaluation.orReport passed n keyword violation)
      (Evaluation.orReport passed' n' keyword violation) := by
  subst h
  cases passed with
  | true => exact pure rfl
  | false => exact bind (report hm [violation] trivial) fun _ _ (_ : True) => pure rfl

end Relates

/-! ## Constraints and children -/

section Steps

variable {L : Link} {visit visit' : SchemaNode → Instance → Evaluation Bool} {s s' : SchemaNode}
  {n n' : Instance} {R : SchemaNode → SchemaNode → Prop} {active active' : List Pair}

/-- Attempts with related schemas. -/
theorem Relates.attempts {targets : List Target}
    (hf : ∀ e e', L.faults e e' → L.faults (forgetting active e) (forgetting active' e'))
    (found : ∀ t ∈ targets, Relates L R (Evaluation.find s t) (Evaluation.find s' t))
    (judged : ∀ a b, R a b → Relates L Eq (visit a n) (visit' b n')) :
    Relates L Eq
      (Evaluation.findAll s targets >>= fun schemas =>
        Evaluation.any (schemas.map fun a => Evaluation.silently active (visit a n)))
      (Evaluation.findAll s' targets >>= fun schemas =>
        Evaluation.any (schemas.map fun b => Evaluation.silently active' (visit' b n'))) := by
  refine .bind (.findAll found) fun as bs habs => .any ?_
  rw [List.forall₂_map_left_iff, List.forall₂_map_right_iff]
  exact habs.imp fun a b hab => .silently hf (judged a b hab)

/-- **A constraint is passed alike**, if the schemas that it leaves the matter to are related and
related schemas judge alike. -/
theorem Relates.passes {c : Constraint} (hv : n'.value = n.value)
    (hm : ∀ keyword violation,
      L.message ⟨n'.pointer, keyword, violation⟩ = ⟨n.pointer, keyword, violation⟩)
    (overflow : L.faults (.overflow active) (.overflow active'))
    (hf : ∀ e e', L.faults e e' → L.faults (forgetting active e) (forgetting active' e'))
    (found : ∀ t ∈ (c.judge n.value).targets,
      Relates L R (Evaluation.find s t) (Evaluation.find s' t))
    (judged : ∀ a b, R a b → Relates L Eq (visit a n) (visit' b n')) :
    Relates L Eq (Validation.passes visit active s n c)
      (Validation.passes visit' active' s' n' c) := by
  unfold Validation.passes
  rw [hv]
  cases hc : c.judge n.value with
  | passed => exact .pure rfl
  | failed violations =>
    exact .bind (.report (hm c.keyword) violations trivial) fun _ _ (_ : True) => .pure rfl
  | deferred target =>
    rw [hc] at found
    exact .bind (found target (List.mem_singleton_self _)) judged
  | anyOf targets otherwise =>
    rw [hc] at found
    have h := (Relates.attempts hf found judged).bind
      fun a b hab => Relates.orReport (hm c.keyword) otherwise hab
    rwa [bind_assoc, bind_assoc] at h
  | noneOf targets otherwise =>
    rw [hc] at found
    have h := (Relates.attempts hf found judged).bind
      fun a b hab => Relates.orReport (hm c.keyword) otherwise (congrArg (!·) hab)
    rwa [bind_assoc, bind_assoc] at h
  | overflow => exact .throw overflow

/-- **A child is judged alike**, if the schemas that are given for it are related and related
schemas judge alike. -/
theorem Relates.childPasses {routing : Routing} {child child' : Instance} (hraw : s'.raw = s.raw)
    (hstep : child'.step = child.step)
    (found : ∀ t ∈ routing.childTargets s child,
      Relates L R (Evaluation.find s t) (Evaluation.find s' t))
    (judged : ∀ a b, R a b → Relates L Eq (visit a child) (visit' b child')) :
    Relates L Eq (Validation.childPasses visit s routing child)
      (Validation.childPasses visit' s' routing child') := by
  unfold Validation.childPasses
  rw [hraw, hstep]
  refine .bind (.findAll found) fun as bs habs => .all ?_
  rw [List.forall₂_map_left_iff, List.forall₂_map_right_iff]
  exact habs.imp judged

end Steps

/-! ## Frames -/

/-- Nodes that are reached from two nodes with the same value in the same way: the nodes
themselves, or two children in the same place. -/
inductive Beside (n n' : Instance) : Instance → Instance → Prop
  | self : Beside n n' n n'
  | child {part : PathStep × Json} (h : part ∈ Instance.parts n.value) :
      Beside n n' (n.child part.1 part.2) (n'.child part.1 part.2)

theorem Beside.eq {n m m' : Instance} (h : Beside n n m m') : m' = m := by
  cases h <;> rfl

/-- **Two evaluations that are entered go side by side**, if they have the same schema and value at
hand, and what they look up is judged alike. -/
theorem Relates.visit_entered {L : Link} {R : Instance → Instance → SchemaNode → SchemaNode → Prop}
    {d d' : Nat} {F F' : Frame} (hm : F.pair ∉ F.active) (hm' : F'.pair ∉ F'.active)
    (hraw : F'.schema.raw = F.schema.raw) (hv : F'.node.value = F.node.value)
    (message : ∀ keyword violation,
      L.message ⟨F'.node.pointer, keyword, violation⟩ = ⟨F.node.pointer, keyword, violation⟩)
    (overflow : L.faults (.overflow F.entered) (.overflow F'.entered))
    (forgetting : ∀ e e', L.faults e e' →
      L.faults (Evaluation.forgetting F.entered e) (Evaluation.forgetting F'.entered e'))
    (found : ∀ {t m m'}, Beside F.node F'.node m m' → LooksUp F.schema F.node t m →
      Relates L (R m m') (Evaluation.find F.schema t) (Evaluation.find F'.schema t))
    (judged : ∀ {m m' a b}, R m m' a b →
      Relates L Eq (visit d F.entered a m) (visit d' F'.entered b m')) :
    Relates L Eq (visit (d + 1) F.active F.schema F.node)
      (visit (d' + 1) F'.active F'.schema F'.node) := by
  rw [visit_of_notMem hm, visit_of_notMem hm']
  have ht : F'.node.type = F.node.type := congrArg NodeType.of hv
  rw [hraw, ht]
  refine .bind (.all ?_) fun passed _ he => ?_
  · rw [List.forall₂_map_left_iff, List.forall₂_map_right_iff, List.forall₂_same]
    intro c hc
    exact .passes hv message overflow forgetting
      (fun t htarget => found .self (.constraint hc htarget)) fun a b => judged
  · subst he
    cases passed with
    | false => exact .pure rfl
    | true =>
      refine .all ?_
      rw [List.forall₂_map_left_iff, List.forall₂_map_right_iff, Instance.children,
        Instance.children, hv, List.forall₂_map_left_iff, List.forall₂_map_right_iff,
        List.forall₂_same]
      intro part hpart
      refine .childPasses hraw rfl (fun t htarget => found (.child hpart) ?_) fun a b => judged
      exact .child (List.mem_map_of_mem hpart) htarget

/-- A relation between frames, each with the number of evaluations that may nest in it, that holds
again for the frames of what they look up. Related frames have the same schema and value at hand;
both pairs are being evaluated, or neither is. -/
structure IsSimulation (L : Link) (P : Nat → Frame → Nat → Frame → Prop) : Prop where
  forgetting : ∀ {d F d' F'}, P d F d' F' → ∀ e e', L.faults e e' →
    L.faults (Evaluation.forgetting F.entered e) (Evaluation.forgetting F'.entered e')
  exhausted : ∀ {d F d' F'}, P d F d' F' → d = 0 ∨ d' = 0 →
    d = d' ∧ L.faults .exhausted .exhausted
  raw : ∀ {d F d' F'}, P d F d' F' → F'.schema.raw = F.schema.raw
  value : ∀ {d F d' F'}, P d F d' F' → F'.node.value = F.node.value
  active : ∀ {d F d' F'}, P d F d' F' → (F'.pair ∈ F'.active ↔ F.pair ∈ F.active)
  message : ∀ {d F d' F'}, P d F d' F' → ∀ keyword violation,
    L.message ⟨F'.node.pointer, keyword, violation⟩ = ⟨F.node.pointer, keyword, violation⟩
  overflow : ∀ {d F d' F'}, P d F d' F' → L.faults (.overflow F.entered) (.overflow F'.entered)
  found : ∀ {d F d' F' t m m'}, P (d + 1) F (d' + 1) F' → F.pair ∉ F.active →
    Beside F.node F'.node m m' → LooksUp F.schema F.node t m →
    Relates L (fun a b => P d ⟨F.entered, a, m⟩ d' ⟨F'.entered, b, m'⟩) (Evaluation.find F.schema t)
      (Evaluation.find F'.schema t)

/-- **Evaluations of related frames go side by side.** -/
theorem IsSimulation.relates_visit {L : Link} {P : Nat → Frame → Nat → Frame → Prop}
    (h : IsSimulation L P) {d d' : Nat} {F F' : Frame} (hp : P d F d' F') :
    Relates L Eq (visit d F.active F.schema F.node) (visit d' F'.active F'.schema F'.node) := by
  induction d generalizing F d' F' with
  | zero =>
    obtain ⟨rfl, he⟩ := h.exhausted hp (.inl rfl)
    exact .throw he
  | succ d ih =>
    cases d' with
    | zero => exact absurd (h.exhausted hp (.inr rfl)).1 (Nat.succ_ne_zero d)
    | succ d' =>
      by_cases hm : F.pair ∈ F.active
      · rw [visit_of_mem hm, visit_of_mem ((h.active hp).2 hm)]
        exact .pure rfl
      have hm' : F'.pair ∉ F'.active := fun hm' => hm ((h.active hp).1 hm')
      exact .visit_entered hm hm' (h.raw hp) (h.value hp) (h.message hp) (h.overflow hp)
        (h.forgetting hp) (h.found hp hm) ih

/-- Evaluations that are entered alike go side by side if their look-ups do. -/
theorem relates_visit_self {L : Link} (message : ∀ m, L.message m = m)
    (exhausted : L.faults .exhausted .exhausted)
    (overflow : ∀ active, L.faults (.overflow active) (.overflow active))
    (forgetting : ∀ active e e', L.faults e e' →
      L.faults (Evaluation.forgetting active e) (Evaluation.forgetting active e'))
    (find : ∀ s t, Relates L Eq (Evaluation.find s t) (Evaluation.find s t)) (depth : Nat)
    (active : List Pair) (s : SchemaNode) (n : Instance) :
    Relates L Eq (visit depth active s n) (visit depth active s n) := by
  have hsimulation : IsSimulation L fun d F d' F' => d = d' ∧ F = F' := by
    constructor
    case forgetting =>
      rintro d F _ _ ⟨rfl, rfl⟩
      exact forgetting F.entered
    case exhausted => exact fun h _ => ⟨h.1, exhausted⟩
    case raw => exact fun h => by rw [h.2]
    case value => exact fun h => by rw [h.2]
    case active => exact fun h => by rw [h.2]
    case message => exact fun h _ _ => by rw [h.2, message]
    case overflow =>
      rintro d F _ _ ⟨rfl, rfl⟩
      exact overflow F.entered
    case found =>
      rintro d F d' _ t m m' ⟨hd, rfl⟩ - hb -
      obtain rfl := hb.eq
      refine (find F.schema t).mono ?_
      rintro a _ rfl
      exact ⟨Nat.succ.inj hd, rfl⟩
  have hsame : depth = depth ∧ (⟨active, s, n⟩ : Frame) = ⟨active, s, n⟩ := ⟨rfl, rfl⟩
  exact hsimulation.relates_visit hsame

/-- Validations come out as the evaluations of their pairs do. -/
theorem Relates.validate {L : Link} {g g' : Registry} (state state' : State)
    {s s' : SchemaNode} {n n' : Instance} (hg : L.registries g g')
    (h : Relates L Eq (visit (depthBound g s n.value) state.active s n)
      (visit (depthBound g' s' n'.value) state'.active s' n')) :
    L.registries (state.validate g s n).2.2 (state'.validate g' s' n').2.2 ∧
      L.Outcomes Eq (state.validate g s n).1 (state'.validate g' s' n').1 ∧
      ∃ added, (state.validate g s n).2.1.messages = state.messages ++ added.map L.message ∧
        (state'.validate g' s' n').2.1.messages = state'.messages ++ added := by
  unfold State.validate
  exact h ⟨g, state.messages⟩ ⟨g', state'.messages⟩ hg

end Evaluation

end JsonSchema.Validation
