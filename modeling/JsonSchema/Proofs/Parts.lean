import JsonSchema.Proofs.Nesting
import JsonSchema.Proofs.Session
import JsonSchema.Vocabulary.Standard
import Mathlib

/-!
# Parts of an instance

A part of an instance is validated in its place as it is alone. In its place, it has a pointer in
front of every place below it, and pairs from above are being evaluated. These pairs have nothing to
do with the part if they lie outside it, as they do whenever an evaluation has come down to a child.

* `IsPart`: two frames, of a part in its place and of the part alone.
* `isSimulation_isPart`: the evaluations of these frames go side by side.
* `validate_part`: the same for validations, in every state whose pairs lie outside the part.
-/

namespace JsonSchema

/-- A message about a part, as it is given for the whole. -/
def Message.below (pointer : List Char) (m : Message) : Message :=
  { m with path := pointer ++ m.path }

namespace Validation

open Evaluation

variable {pointer : List Char} {rest : List Pair}

/-- A pair of a part, as it is in the whole. -/
def belowPair (pointer : List Char) (pair : Pair) : Pair :=
  (pair.1, pointer ++ pair.2)

/-- A fault in a part, as it is in the whole, where more pairs are being evaluated. -/
def Fault.below (pointer : List Char) (rest : List Pair) : Fault → Fault
  | .overflow active => .overflow (active.map (belowPair pointer) ++ rest)
  | fault => fault

/-- What happens in the whole, to what happens in the part. -/
def partLink (pointer : List Char) (rest : List Pair) : Link where
  registries := Eq
  faults e e' := e = e'.below pointer rest
  message := .below pointer

/-- Two frames: `F` of a place of a part that is at `pointer`, and `F'` of this place in the part
alone. The evaluations have come equally deep into the part. -/
structure IsPart (pointer : List Char) (rest : List Pair) (depth : Nat) (F : Frame) (depth' : Nat)
    (F' : Frame) : Prop where
  depth : depth = depth'
  schema : F.schema = F'.schema
  value : F'.node.value = F.node.value
  place : F.node.pointer = pointer ++ F'.node.pointer
  steps : F'.node.pointer = [] ∨ F'.node.pointer.head? = some '/'
  active : F.active = F'.active.map (belowPair pointer) ++ rest

namespace IsPart

variable {d d' : Nat} {F F' : Frame} {m m' : Instance}

theorem pair_eq (h : IsPart pointer rest d F d' F') : F.pair = belowPair pointer F'.pair := by
  rw [Frame.pair, pairOf, h.schema, h.place]
  rfl

theorem entered_eq (h : IsPart pointer rest d F d' F') :
    F.entered = F'.entered.map (belowPair pointer) ++ rest := by
  rw [Frame.entered, h.pair_eq, h.active]
  rfl

/-- **A pair of the part is being evaluated in both or in neither**: the pairs from outside are
others. -/
theorem mem_active_iff (hclear : IsClear pointer rest) (h : IsPart pointer rest d F d' F') :
    F'.pair ∈ F'.active ↔ F.pair ∈ F.active := by
  have houtside : belowPair pointer F'.pair ∉ rest := fun hm =>
    hclear _ hm (IsAtOrBelow.append_iff.2 h.steps)
  have hinjective : Function.Injective (belowPair pointer) := by
    intro a b he
    obtain ⟨hname, hplace⟩ := Prod.mk.inj he
    exact Prod.ext hname (List.append_cancel_left hplace)
  rw [h.pair_eq, h.active, List.mem_append, or_iff_left houtside,
    List.mem_map_of_injective hinjective]

/-- Going on side by side, to the same schema. -/
theorem of_beside (h : IsPart pointer rest (d + 1) F (d' + 1) F') (hb : Beside F.node F'.node m m')
    (a : SchemaNode) : IsPart pointer rest d ⟨F.entered, a, m⟩ d' ⟨F'.entered, a, m'⟩ := by
  have hdepth := Nat.succ.inj h.depth
  cases hb with
  | self => exact ⟨hdepth, rfl, h.value, h.place, h.steps, h.entered_eq⟩
  | @child part hpart =>
    refine ⟨hdepth, rfl, rfl, ?_, ?_, h.entered_eq⟩
    · simp only [Instance.child, h.place, List.append_assoc]
    · refine .inr ?_
      rcases h.steps with hnil | hhead
      · simp only [Instance.child, hnil, List.nil_append, List.head?_cons]
      · simp only [Instance.child, List.head?_append, hhead, Option.some_or]

end IsPart

/-- **The evaluation of a part in its place goes as that of the part alone.** -/
theorem isSimulation_isPart (hclear : IsClear pointer rest) :
    IsSimulation (partLink pointer rest) (IsPart pointer rest) where
  forgetting h e e' he := by
    obtain rfl : e = e'.below pointer rest := he
    cases e' with
    | overflow active => exact congrArg Fault.overflow h.entered_eq
    | unresolved cause => rfl
    | exhausted => rfl
  exhausted h _ := ⟨h.depth, rfl⟩
  raw h := by rw [h.schema]
  value h := h.value
  active h := h.mem_active_iff hclear
  message h keyword violation := by
    rw [h.place]
    rfl
  overflow h := congrArg Fault.overflow h.entered_eq
  found h _ hb _ := by
    rw [h.schema]
    exact .find_self rfl (fun _ => rfl) (h.of_beside hb)

/-- A part in a state, and the part alone. -/
theorem isPart_root (depth : Nat) (state : State) (s : SchemaNode) (n : Instance) :
    IsPart n.pointer state.active depth ⟨state.active, s, n⟩ depth ⟨[], s, .root n.value⟩ :=
  ⟨rfl, rfl, rfl, (List.append_nil _).symm, .inl rfl, rfl⟩

/-- **A part is validated in its place as it is alone.** If no pair of a state lies at or below a
node, then a validation in this state has the outcome of one of the value alone, in a fresh state,
and leaves the same registry; the messages that it adds are the same, with the pointer of the node
in front of each place. The state is such whenever an evaluation of a whole instance visits a
child. -/
theorem validate_part (state : State) (g : Registry) (s : SchemaNode) (n : Instance) :
    (IsClear n.pointer state.active →
      (state.validate g s n).1 =
          (State.validate {} g s (.root n.value)).1.mapError (.below n.pointer state.active) ∧
        (state.validate g s n).2.1.messages = state.messages ++
          (State.validate {} g s (.root n.value)).2.1.messages.map (.below n.pointer) ∧
        (state.validate g s n).2.2 = (State.validate {} g s (.root n.value)).2.2) ∧
    ∀ sees value F child, Within sees ⟨[], s, .root value⟩ F → child ∈ F.node.children →
      IsClear child.pointer F.entered := by
  refine ⟨fun hclear => ?_, fun sees value F child hF hc => hF.isClear (by simp [IsClear]) hc⟩
  have hrun : Relates (partLink n.pointer state.active) Eq
      (visit (depthBound g s n.value) state.active s n)
      (visit (depthBound g s (Instance.root n.value).value) [] s (.root n.value)) :=
    (isSimulation_isPart hclear).relates_visit (isPart_root _ state s n)
  obtain ⟨hregistry, ho, added, hmessages, halone⟩ := Relates.validate state {} rfl hrun
  rw [List.nil_append] at halone
  refine ⟨?_, by rw [hmessages, halone]; rfl, hregistry⟩
  generalize (state.validate g s n).1 = a at ho ⊢
  generalize (State.validate {} g s (.root n.value)).1 = b at ho ⊢
  cases ho with
  | ok hab => exact congrArg Except.ok hab
  | error he => exact congrArg Except.error he

/-- A schema of lists whose links lead to objects. -/
def linked : SchemaNode :=
  .of .empty (.obj [("type", .str "object"),
    ("properties", .obj [("next", .obj [("$ref", .str "#")])])]) []

/-- The state in which the link of a list is visited. -/
def linkedState : State :=
  { active := [pairOf linked (.root (.obj [("next", .bool true)]))] }

/-- The link. -/
def brokenLink : Instance :=
  (Instance.root (.obj [("next", .bool true)])).child (.field "next") (.bool true)

theorem validate_part_linked : IsClear brokenLink.pointer linkedState.active ∧
    (linkedState.validate (.fresh [] .standard) linked brokenLink).1 = .ok false ∧
    (linkedState.validate (.fresh [] .standard) linked brokenLink).2.1.messages =
      [⟨"/next".toList, "type", .wrongType ["object"] false .boolean⟩] := by
  have hclear : IsClear brokenLink.pointer linkedState.active := by
    refine List.forall_mem_singleton.2 fun hbelow => ?_
    exact absurd hbelow.isPrefix.length_le (by decide)
  have halone : (State.validate {} (.fresh [] .standard) linked (.root brokenLink.value)).1 =
      .ok false := by
    cbv
  have hmessages : (State.validate {} (.fresh [] .standard) linked
      (.root brokenLink.value)).2.1.messages =
        [⟨[], "type", .wrongType ["object"] false .boolean⟩] := by
    cbv
  have hpart := (validate_part linkedState (.fresh [] .standard) linked brokenLink).1 hclear
  rw [halone, hmessages] at hpart
  exact ⟨hclear, hpart.1, hpart.2.1⟩

end Validation

end JsonSchema
