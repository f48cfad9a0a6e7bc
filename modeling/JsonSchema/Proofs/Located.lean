import JsonSchema.Proofs.Preorder
import JsonSchema.Proofs.Remainder
import JsonSchema.Proofs.Simulation
import JsonSchema.Vocabulary.Standard
import Mathlib

/-!
# Pointers of nodes and of messages

The nodes of an instance are reached from its root, child by child. The pointer of a node spells
the steps of the way, so it tells the node from all others, and read again it leads to the value of
the node. The messages of an evaluation bear the pointers of nodes that it has come to; so they lead
to values of the instance, too.

* `Instance.Reaches`: the ways from a node down to another one.
* `Instance.Reaches.walk?`: the names along a way lead to the value of the node.
* `Instance.Reaches.unique`: the steps of a way are told from their names.
* `Validation.path_mem_of_validate`: messages are about nodes at or below the one that is validated.
* `Instance.pointers_identify`: what pointers of nodes and paths of messages lead to.
-/

namespace JsonSchema

namespace Instance

variable {top n m m' c : Instance} {steps steps' : List PathStep}

/-! ## Ways down -/

/-- Steps from child to child lead from one node to another one. -/
inductive Reaches : Instance → List PathStep → Instance → Prop
  | here (n : Instance) : Reaches n [] n
  | down {n c m : Instance} {step : PathStep} {rest : List PathStep} (hc : c ∈ n.children)
      (hs : c.step = some step) (h : Reaches c rest m) : Reaches n (step :: rest) m

/-- A child is a part of the value, with its step. -/
theorem exists_part_of_mem_children {step : PathStep} (hc : c ∈ n.children)
    (hs : c.step = some step) :
    (step, c.value) ∈ parts n.value ∧ c = n.child step c.value := by
  obtain ⟨⟨step', value⟩, hpart, rfl⟩ := List.mem_map.1 hc
  obtain rfl : step' = step := Option.some.inj hs
  exact ⟨hpart, rfl⟩

/-- The names along a way lead to the value of the node, and its pointer spells them. -/
theorem Reaches.walk? (h : n.Reaches steps m) (hn : n.value.WellFormed) :
    n.value.walk? (steps.map PathStep.text) = some m.value ∧
      m.pointer = (steps.map PathStep.text).foldl Pointer.child n.pointer := by
  induction h with
  | here n => exact ⟨rfl, rfl⟩
  | @down n c m step rest hc hs _ ih =>
    obtain ⟨hpart, hchild⟩ := exists_part_of_mem_children hc hs
    have hbelow := below?_of_mem_parts hn hpart
    have hpointer : c.pointer = Pointer.child n.pointer step.text := by
      rw [hchild, child_pointer]
    obtain ⟨hwalk, hspelled⟩ := ih (hn.below? hbelow)
    refine ⟨?_, ?_⟩
    · rw [List.map_cons, Json.walk?, hbelow]
      exact hwalk
    · rw [hspelled, hpointer]
      rfl

/-- **The steps of a way and the node that it leads to are told from the names along it.** -/
theorem Reaches.unique (h : n.Reaches steps m) (h' : n.Reaches steps' m')
    (hn : n.value.WellFormed) (he : steps.map PathStep.text = steps'.map PathStep.text) :
    steps = steps' ∧ m = m' := by
  induction h generalizing steps' with
  | here n =>
    obtain rfl : steps' = [] := List.map_eq_nil_iff.1 he.symm
    cases h'
    exact ⟨rfl, rfl⟩
  | @down n c m step rest hc hs _ ih =>
    cases h' with
    | here n => cases he
    | @down _ c' _ step' rest' hc' hs' h' =>
      obtain ⟨htext, hrest⟩ := List.cons.inj he
      obtain ⟨hpart, hchild⟩ := exists_part_of_mem_children hc hs
      obtain ⟨hpart', hchild'⟩ := exists_part_of_mem_children hc' hs'
      -- Parts with steps of one text are the same part.
      have hsame := List.inj_on_of_nodup_map (nodup_texts_parts hn) hpart hpart' htext
      obtain ⟨rfl, hvalue⟩ := Prod.mk.inj hsame
      obtain rfl : c = c' := by rw [hchild, hchild', hvalue]
      obtain ⟨rfl, rfl⟩ := ih h' (hn.below? (below?_of_mem_parts hn hpart)) hrest
      exact ⟨rfl, rfl⟩

/-- A way does not leave what is at or below a node. -/
theorem Reaches.mem_subtree (h : n.Reaches steps m) (hn : n ∈ top.subtree) : m ∈ top.subtree := by
  induction h with
  | here n => exact hn
  | down hc _ _ ih => exact ih (mem_subtree_of_mem_children hn hc)

/-- The nodes that ways lead to are those at or below a node. -/
theorem mem_subtree_iff_exists_reaches : m ∈ n.subtree ↔ ∃ steps, n.Reaches steps m := by
  refine ⟨fun hm => ?_, fun ⟨_, h⟩ => h.mem_subtree n.mem_subtree_self⟩
  induction hm using subtree_induction with
  | here => exact ⟨[], .here m⟩
  | above hc _ ih =>
    obtain ⟨steps, hsteps⟩ := ih
    obtain ⟨p, -, rfl⟩ := List.mem_map.1 hc
    exact ⟨p.1 :: steps, .down hc rfl hsteps⟩

end Instance

/-! ## Messages -/

namespace Validation

open Evaluation

variable {top : Instance}

/-- What happens in an evaluation, to itself. A message about a place that is not at or below a
node is answered by none, since it would have to be a longer one. -/
def insideLink (top : Instance) : Link where
  registries := Eq
  faults := Eq
  message m :=
    if m.path ∈ top.subtree.map (·.pointer) then m else { m with path := '/' :: m.path }

theorem isSimulation_inside (top : Instance) :
    IsSimulation (insideLink top) fun d F d' F' => d = d' ∧ F = F' ∧ F.node ∈ top.subtree where
  forgetting h e e' he := by
    obtain ⟨-, rfl, -⟩ := h
    exact congrArg (forgetting _) he
  exhausted h _ := ⟨h.1, rfl⟩
  raw h := by rw [h.2.1]
  value h := by rw [h.2.1]
  active h := by rw [h.2.1]
  message h keyword violation := by
    obtain ⟨-, rfl, hnode⟩ := h
    exact if_pos (List.mem_map_of_mem hnode)
  overflow h := by rw [h.2.1]; rfl
  found h _ hb _ := by
    obtain ⟨hd, rfl, hnode⟩ := h
    obtain rfl := hb.eq
    refine .find_self rfl (fun _ => rfl) fun a => ⟨Nat.succ.inj hd, rfl, ?_⟩
    cases hb with
    | self => exact hnode
    | child hpart => exact Instance.mem_subtree_of_mem_children hnode (List.mem_map_of_mem hpart)

/-- **Messages are about nodes at or below the one that is validated**, whether or not there is a
verdict. -/
theorem path_mem_of_validate (state : State) (g : Registry) (s : SchemaNode) (n : Instance) :
    ∃ added, (state.validate g s n).2.1.messages = state.messages ++ added ∧
      ∀ m ∈ added, m.path ∈ n.subtree.map (·.pointer) := by
  have hrun : Relates (insideLink n) Eq (visit (depthBound g s n.value) state.active s n)
      (visit (depthBound g s n.value) state.active s n) :=
    (isSimulation_inside n).relates_visit (F := ⟨state.active, s, n⟩)
      ⟨rfl, rfl, n.mem_subtree_self⟩
  obtain ⟨-, -, added, hlinked, hadded⟩ := Relates.validate state state rfl hrun
  refine ⟨added, hadded, fun m hm => ?_⟩
  have hsame : added.map (insideLink n).message = added.map id := by
    rw [List.map_id]
    exact List.append_cancel_left (hlinked.symm.trans hadded)
  have hself : (insideLink n).message m = m := List.map_eq_map_iff.1 hsame m hm
  by_contra houtside
  have hmoved : (insideLink n).message m = { m with path := '/' :: m.path } := if_neg houtside
  exact List.cons_ne_self _ _ (congrArg Message.path (hmoved.symm.trans hself))

end Validation

/-! ## Nodes and messages -/

namespace Instance

open Validation (State)

variable {n m m' : Instance} {v w : Json} {steps steps' : List PathStep}
  {tokens : List (List Char)} {g : Registry} {r : Reference} {report : Validation.Report}

/-- The pointer of a node that is reached leads to the value of the node. -/
theorem Reaches.at? (h : (root v).Reaches steps m) (hv : v.WellFormed) :
    v.at? m.pointer = some m.value :=
  at?_of_mem_subtree hv (h.mem_subtree (root v).mem_subtree_self)

/-- Nodes with one pointer are reached by the same steps. -/
theorem Reaches.eq_of_pointer_eq (h : (root v).Reaches steps m) (h' : (root v).Reaches steps' m')
    (hv : v.WellFormed) (he : m.pointer = m'.pointer) : steps = steps' ∧ m = m' := by
  rw [(h.walk? hv).2, (h'.walk? hv).2] at he
  exact h.unique h' hv (Pointer.foldl_child_inj he)

/-- **Every value within a value is reached exactly once**, at the place that its names spell. -/
theorem existsUnique_reaches (hv : v.WellFormed) (h : v.Leads tokens w) :
    ∃! way : List PathStep × Instance, (root v).Reaches way.1 way.2 ∧ way.2.value = w ∧
      way.2.pointer = tokens.foldl Pointer.child [] := by
  obtain ⟨m, hm, hvalue, hpointer⟩ :=
    exists_mem_subtree_of_walk? (n := root v) ((Json.walk?_eq_some_iff hv).2 h)
  obtain ⟨steps, hsteps⟩ := mem_subtree_iff_exists_reaches.1 hm
  refine ⟨(steps, m), ⟨hsteps, hvalue, hpointer⟩, ?_⟩
  rintro ⟨steps', m'⟩ ⟨hsteps', -, hpointer'⟩
  obtain ⟨rfl, rfl⟩ := hsteps.eq_of_pointer_eq hsteps' hv (hpointer.trans hpointer'.symm)
  rfl

/-- The messages of a validation of a node lead to values of the whole. -/
theorem Reaches.at?_of_validate (h : (root v).Reaches steps n) (hv : v.WellFormed) (state : State)
    (g : Registry) (s : SchemaNode) :
    ∃ added, (state.validate g s n).2.1.messages = state.messages ++ added ∧
      ∀ m ∈ added, ∃ w, v.at? m.path = some w := by
  obtain ⟨added, hadded, hpaths⟩ := Validation.path_mem_of_validate state g s n
  refine ⟨added, hadded, fun m hm => ?_⟩
  obtain ⟨x, hx, hpath⟩ := List.mem_map.1 (hpaths m hm)
  obtain ⟨more, hmore⟩ := mem_subtree_iff_exists_reaches.1 hx
  have hbelow := hmore.mem_subtree (h.mem_subtree (root v).mem_subtree_self)
  exact ⟨x.value, hpath ▸ at?_of_mem_subtree hv hbelow⟩

theorem at?_of_mem_messages (hv : v.WellFormed) (h : (g.validate r v).1 = .ok report) :
    ∀ m ∈ report.messages, ∃ w, v.at? m.path = some w := by
  rcases hs : g.getSchema r with ⟨_ | s, g'⟩
  · rw [Registry.validate, hs] at h
    cases h
  rw [Registry.validate_of_getSchema hs, Registry.validate_fst] at h
  obtain ⟨valid, -, rfl⟩ := Uri.map_eq_ok_iff.1 h
  obtain ⟨added, hadded, hpaths⟩ := (Reaches.here (root v)).at?_of_validate hv {} g' s
  rw [List.nil_append] at hadded
  rwa [hadded]

/-- **Pointers identify nodes.** The pointer of a node that is reached from the root leads to the
value of the node, nodes that are reached by different steps have different pointers, and every
value within the root is reached exactly once. So the messages of every validation of such a node,
and of every report on the root, lead to values within the root. -/
theorem pointers_identify (hv : v.WellFormed) :
    (∀ steps m, (root v).Reaches steps m → v.at? m.pointer = some m.value) ∧
    (∀ steps steps' m m', (root v).Reaches steps m → (root v).Reaches steps' m' →
      steps ≠ steps' → m.pointer ≠ m'.pointer) ∧
    (∀ tokens w, v.Leads tokens w → ∃! way : List PathStep × Instance,
      (root v).Reaches way.1 way.2 ∧ way.2.value = w ∧
        way.2.pointer = tokens.foldl Pointer.child []) ∧
    (∀ steps n, (root v).Reaches steps n → ∀ (state : State) (g : Registry) (s : SchemaNode),
      ∃ added, (state.validate g s n).2.1.messages = state.messages ++ added ∧
        ∀ m ∈ added, ∃ w, v.at? m.path = some w) ∧
    ∀ (g : Registry) (r : Reference) report, (g.validate r v).1 = .ok report →
      ∀ m ∈ report.messages, ∃ w, v.at? m.path = some w :=
  ⟨fun _ _ h => h.at? hv,
    fun _ _ _ _ h h' hne he => hne (h.eq_of_pointer_eq h' hv he).1,
    fun _ _ h => existsUnique_reaches hv h,
    fun _ _ h state g s => h.at?_of_validate hv state g s,
    fun _ _ _ h => at?_of_mem_messages hv h⟩

/-- A registry with a schema of texts. -/
def texts : Registry :=
  ((Registry.fresh [] .standard).register .empty (.obj [("type", .str "string")])).2

/-- The schema. -/
def textSchema : SchemaNode :=
  .of .empty (.obj [("type", .str "string")]) []

/-- Names with a slash and a tilde, and one like an index beside a list. -/
def slashedNames : Json :=
  .obj [("a/b", .arr [.str "x", .null]), ("~1", .bool true), ("1", .arr [.null, .bool true])]

/-- The second item of the list. -/
def slashedItem : Instance :=
  ((root slashedNames).child (.field "a/b") (.arr [.str "x", .null])).child (.index 1) .null

theorem pointers_identify_slashed :
    (root slashedNames).Reaches [.field "a/b", .index 1] slashedItem ∧
    slashedItem.pointer = "/a~1b/1".toList ∧ slashedNames.at? slashedItem.pointer = some .null ∧
    (State.validate {} texts textSchema slashedItem).2.1.messages =
      [⟨"/a~1b/1".toList, "type", .wrongType ["string"] false .null⟩] ∧
    (∃ w, slashedNames.at? "/a~1b/1".toList = some w) ∧
    ∃ report, (texts.validate .empty slashedNames).1 = .ok report ∧ report.messages ≠ [] ∧
      ∀ m ∈ report.messages, ∃ w, slashedNames.at? m.path = some w := by
  have hv : slashedNames.WellFormed := by
    simp [slashedNames, Json.WellFormed, Json.WellFormedMembers, Json.WellFormedItems]
  obtain ⟨hnodes, -, -, hstates, hreports⟩ := pointers_identify hv
  have hway : (root slashedNames).Reaches [.field "a/b", .index 1] slashedItem :=
    .down List.mem_cons_self rfl (.down (List.mem_cons_of_mem _ List.mem_cons_self) rfl (.here _))
  have hmessages : (State.validate {} texts textSchema slashedItem).2.1.messages =
      [⟨"/a~1b/1".toList, "type", .wrongType ["string"] false .null⟩] := by
    cbv
  obtain ⟨added, hadded, hpaths⟩ := hstates _ _ hway {} texts textSchema
  rw [hmessages, List.nil_append] at hadded
  have hreport : (texts.validate .empty slashedNames).1 =
      .ok ⟨false, [⟨[], "type", .wrongType ["string"] false .object⟩]⟩ := by
    cbv
  exact ⟨hway, by cbv, hnodes _ _ hway, hmessages, hpaths _ (hadded ▸ List.mem_singleton_self _),
    _, hreport, List.cons_ne_nil _ _, hreports _ _ _ hreport⟩

end Instance

end JsonSchema
