import JsonSchema.Proofs.Calls
import JsonSchema.Proofs.Termination
import Mathlib

/-!
# Chains of references

A schema that is a reference and nothing else leaves the whole matter to the schema that it refers
to, and so on along a chain. Validating against the first schema of a chain comes out as validating
against the one that the chain leads to. The pairs that are being evaluated differ all the time: a
reference back into the chain is cut short where the evaluation came along the chain, and goes round
it where it did not, until it comes to the end of the chain again.

Pairs are told apart by the text of the reference of a schema, so this needs that schemas of a chain
are not taken for others.

* `Registry.Forwards` and `Registry.Chain`: references, and chains of them.
* `run_visit_of_returns`: going along a chain to where an evaluation is already.
* `run_visit_of_chain`: going along a chain otherwise.
* `relates_visit_of_shortcut`: evaluations that came along the chain, and ones that did not.
* `validate_chain`: validations against both ends of a chain.
-/

namespace JsonSchema

open Validation Validation.Evaluation

/-! ## References -/

namespace Registry

variable {g a : Registry} {s s' t x y : SchemaNode} {nodes nodes' : List SchemaNode}
  {target : Target} {n : Instance}

/-- A schema that is seen is found without a change of the registry. -/
theorem Replays.find_of_sees (h : g.Replays a) (hs : g.Sees s target s') :
    a.find s target = (.ok s', a) := by
  obtain ⟨r, d, pointer, hlocate, hkept, hplace, rfl⟩ := exists_of_seen? h.offline hs
  have hc : a.cached? r.toLocator = some (.ok d) := by
    rw [← h.kept, kept?] at hkept
    obtain ⟨outcome, hc, ho⟩ := Option.bind_eq_some_iff.1 hkept
    cases outcome with
    | ok d' =>
      cases ho
      exact hc
    | error cause => cases ho
  have hnode : nodeOf r d = .ok (.of r.toLocator d pointer) := by
    rw [nodeOf, hplace]
  rw [Registry.find, hlocate]
  simp only
  rw [Registry.getSchema, document_of_cached? hc]
  exact congrArg (·, a) hnode

/-- A node whose value is a reference and nothing else, and the node that it refers to. -/
def Forwards (g : Registry) (s s' : SchemaNode) : Prop :=
  ∃ value, s.raw = .obj [("$ref", value)] ∧ g.Sees s (.referenced value) s'

theorem Forwards.unique (h : g.Forwards s x) (h' : g.Forwards s y) : x = y := by
  obtain ⟨value, hraw, hs⟩ := h
  obtain ⟨value', hraw', hs'⟩ := h'
  rw [hraw] at hraw'
  cases hraw'
  exact Option.some.inj (hs.symm.trans hs')

/-- A chain of nodes, each of which refers to the next one, and the last one to `t`. -/
inductive Chain (g : Registry) : SchemaNode → List SchemaNode → SchemaNode → Prop
  | nil (t : SchemaNode) : Chain g t [] t
  | cons {s s' t : SchemaNode} {rest : List SchemaNode} (h : g.Forwards s s')
      (hrest : Chain g s' rest t) : Chain g s (s :: rest) t

namespace Chain

/-- From a node of a chain, the chain leads on to its end. -/
theorem exists_suffix (h : g.Chain s nodes t) (hx : x ∈ nodes) :
    ∃ rest, g.Chain x (x :: rest) t ∧ rest.length < nodes.length := by
  induction h with
  | nil => cases hx
  | @cons s s' t rest hs hrest ih =>
    rcases List.mem_cons.1 hx with rfl | hx
    · exact ⟨rest, .cons hs hrest, Nat.lt_succ_self _⟩
    · obtain ⟨more, hmore, hlength⟩ := ih hx
      exact ⟨more, hmore, Nat.lt_succ_of_lt hlength⟩

/-- A chain that leads on after it came to a node comes to it again. -/
theorem mem_of_length_lt (h' : g.Chain s nodes' t) (h : g.Chain s nodes t)
    (hlength : nodes'.length < nodes.length) : t ∈ nodes := by
  induction h' generalizing nodes with
  | nil =>
    cases h with
    | nil => cases hlength
    | cons => exact List.mem_cons_self
  | cons hs _ ih =>
    cases h with
    | nil => cases hlength
    | cons hs' hrest =>
      obtain rfl := hs.unique hs'
      exact List.mem_cons_of_mem _ (ih hrest (Nat.lt_of_succ_lt_succ hlength))

/-- **A chain that repeats a node closes on itself.** -/
theorem nodup_of_notMem (h : g.Chain s nodes t) (ht : t ∉ nodes) : (nodes ++ [t]).Nodup := by
  induction h with
  | nil => exact List.nodup_singleton _
  | @cons s s' t rest hs hrest ih =>
    obtain ⟨hne, ht⟩ := not_or.1 (mt List.mem_cons.2 ht)
    refine List.nodup_cons.2 ⟨fun hm => ?_, ih ht⟩
    rcases List.mem_append.1 hm with hm | hm
    · obtain ⟨more, hmore, hlength⟩ := hrest.exists_suffix hm
      have := mem_of_length_lt hmore (.cons hs hrest) (Nat.succ_lt_succ hlength)
      exact (List.mem_cons.1 this).elim hne ht
    · exact hne (List.mem_singleton.1 hm).symm

end Chain

end Registry

namespace Validation

variable {g : Registry} {s s' t x y : SchemaNode} {nodes : List SchemaNode} {n m : Instance}
  {active : List Pair} {d : Nat} {p : Progress}

/-! ## Going along a chain -/

theorem forType_reference (value : Json) (type : NodeType) :
    Constraint.forType (.obj [("$ref", value)]) type = [.ref value] := by
  cases type <;> rfl

theorem routing_reference (value : Json) (type : NodeType) :
    Routing.of type (.obj [("$ref", value)]) = .none := by
  cases type <;> rfl

/-- A reference comes to the node that it refers to. -/
theorem leads_of_forwards (h : g.Forwards s s') (n : Instance) :
    Leads g.Sees (s, n) (s', n) := by
  obtain ⟨value, hraw, hs⟩ := h
  refine .looksUp (.constraint (c := .ref value) ?_ (List.mem_singleton_self _)) hs
  rw [hraw, forType_reference]
  exact List.mem_singleton_self _

/-- It comes to no other. -/
theorem eq_of_leads_of_forwards (h : g.Forwards s s') {q : Judgement}
    (hq : Leads g.Sees (s, n) q) : q = (s', n) := by
  obtain ⟨value, hraw, hs⟩ := h
  obtain ⟨hlook, hsees⟩ := hq
  cases hlook with
  | @constraint c _ hc ht =>
    rw [hraw, forType_reference] at hc
    rw [List.mem_singleton.1 hc] at ht
    obtain rfl := List.mem_singleton.1 ht
    rw [Option.some.inj (hsees.symm.trans hs)]
  | child _ ht =>
    obtain ⟨step, ht⟩ := Routing.exists_step_of_mem_childTargets ht
    rw [hraw, routing_reference] at ht
    cases ht

/-- A chain comes to its nodes. -/
theorem reaches_of_chain (h : g.Chain s nodes t) (n : Instance) (hx : x ∈ nodes ++ [t]) :
    Reaches g.Sees (s, n) (x, n) := by
  induction h with
  | nil =>
    rw [List.mem_singleton.1 hx]
    exact .refl
  | cons hs _ ih =>
    rcases List.mem_cons.1 hx with rfl | hx
    · exact .refl
    · exact .head (leads_of_forwards hs n) (ih hx)

/-- The evaluation of a reference is that of the node that it refers to. -/
theorem run_visit_of_forwards (h : g.Forwards s s') (hnew : pairOf s n ∉ active)
    (hp : g.Replays p.registry) :
    (visit (d + 1) active s n).run p = (visit d (pairOf s n :: active) s' n).run p := by
  obtain ⟨value, hraw, hs⟩ := h
  have hfind : (find s (.referenced value)).run p = (.ok s', p) := by
    rw [run_find, hp.find_of_sees hs]
    rfl
  rw [visit_of_notMem hnew, hraw, forType_reference, routing_reference]
  simp only [List.map_cons, List.map_nil, all, all_childPasses_none]
  have hpasses : passes (visit d (pairOf s n :: active)) (pairOf s n :: active) s n (.ref value) =
      find s (.referenced value) >>= fun s' => visit d (pairOf s n :: active) s' n := rfl
  rw [hpasses]
  simp only [run_bind, hfind]
  rcases (visit d (pairOf s n :: active) s' n).run p with ⟨e | b, q⟩
  · rfl
  · cases b <;> rfl

/-- **A chain that leads to where an evaluation is already**, or that closes on itself, is
accepted. -/
theorem run_visit_of_returns (h : g.Chain s nodes t) (ht : pairOf t n ∈ active ∨ t ∈ nodes)
    (hd : nodes.length < d) (hp : g.Replays p.registry) :
    (visit d active s n).run p = (.ok true, p) := by
  induction h generalizing active d with
  | nil t =>
    cases d with
    | zero => cases hd
    | succ d =>
      rw [visit_of_mem (ht.resolve_right List.not_mem_nil)]
      rfl
  | @cons s s' t rest hs _ ih =>
    cases d with
    | zero => cases hd
    | succ d =>
      by_cases hm : pairOf s n ∈ active
      · rw [visit_of_mem hm]
        rfl
      rw [run_visit_of_forwards hs hm hp]
      refine ih ?_ (Nat.lt_of_succ_lt_succ hd)
      rcases ht with ht | ht
      · exact .inl (List.mem_cons_of_mem _ ht)
      · rcases List.mem_cons.1 ht with rfl | ht
        · exact .inl List.mem_cons_self
        · exact .inr ht

/-- Otherwise, the evaluation of its first node is that of its end, while the pairs of the chain
are being evaluated. -/
theorem run_visit_of_chain (h : g.Chain s nodes t)
    (hnodup : (nodes.map (pairOf · n)).Nodup) (hnew : ∀ c ∈ nodes, pairOf c n ∉ active)
    (hp : g.Replays p.registry) :
    (visit (d + nodes.length) active s n).run p =
      (visit d ((nodes.map (pairOf · n)).reverse ++ active) t n).run p := by
  induction h generalizing active with
  | nil => rfl
  | @cons s s' t rest hs _ ih =>
    obtain ⟨hhead, htail⟩ := List.nodup_cons.1 hnodup
    obtain ⟨hs_new, hrest_new⟩ := List.forall_mem_cons.1 hnew
    rw [List.length_cons, ← Nat.add_assoc, run_visit_of_forwards hs hs_new hp, ih htail ?_]
    · rw [List.map_cons, List.reverse_cons, List.append_assoc, List.singleton_append]
    · intro c hc hm
      rcases List.mem_cons.1 hm with he | hm
      · exact hhead (List.mem_map.2 ⟨c, hc, he⟩)
      · exact hrest_new c hc hm

/-! ## Both ends of a chain -/

theorem forgetting_forgetting (active active' : List Pair) (e : Fault) :
    forgetting active (forgetting active' e) = forgetting active e := by
  cases e <;> rfl

/-- An evaluation that came along a chain, to one that did not: the same happens. -/
def chainLink (g : Registry) : Link where
  registries a b := a = b ∧ g.Replays a
  faults e e' := forgetting [] e = forgetting [] e'
  message := id

/-- What an evaluation that came along a chain, and one that did not, are entered with. The nodes of
the chain are being evaluated in the first one only. -/
structure Shortcut (g : Registry) (s : SchemaNode) (nodes : List SchemaNode) (t : SchemaNode)
    (n : Instance) (d : Nat) (F : Frame) (d' : Nat) (F' : Frame) : Prop where
  schema : F'.schema = F.schema
  node : F'.node = F.node
  active : ∀ pair, pair ∈ F.active ↔ pair ∈ F'.active ∨ pair ∈ nodes.map (pairOf · n)
  started : pairOf t n ∈ F'.entered
  reached : Reaches g.Sees (s, n) (F.schema, F.node)
  enough : (pairsLeft (reachablePairs g s n) F.active).card < d
  enough' : nodes.length + (pairsLeft (reachablePairs g s n) F'.active).card < d'

/-- The schemas of a chain are not taken for others: what is reached and has the reference of one
of them is this one. -/
def ToldApart (g : Registry) (s : SchemaNode) (nodes : List SchemaNode) (n : Instance) : Prop :=
  ∀ c ∈ nodes, ∀ p, Reaches g.Sees (s, n) p → p.1.reference.same c.reference → p.1 = c

theorem Shortcut.pair_eq {d d' : Nat} {F F' : Frame} (h : Shortcut g s nodes t n d F d' F') :
    F'.pair = F.pair := by
  rw [Frame.pair, Frame.pair, h.schema, h.node]

/-- A reference back into the chain, in the evaluation that did not come along it. -/
theorem Shortcut.run_visit_of_mem {d d' : Nat} {F F' : Frame} (chain : g.Chain s nodes t)
    (apart : ToldApart g s nodes n) (hnew : pairOf t n ∉ nodes.map (pairOf · n))
    (h : Shortcut g s nodes t n d F d' F') (hm : F.pair ∈ F.active) (hm' : F'.pair ∉ F'.active)
    (hp : g.Replays p.registry) :
    (visit d' F'.active F'.schema F'.node).run p = (.ok true, p) := by
  rw [h.pair_eq] at hm'
  have hback := ((h.active _).1 hm).resolve_left hm'
  obtain ⟨c, hc, he⟩ := List.mem_map.1 hback
  obtain ⟨htext, hpointer⟩ := Prod.mk.inj he
  obtain rfl : F.schema = c := apart c hc (F.schema, F.node) h.reached (decide_eq_true htext.symm)
  obtain ⟨rest, hrest, hlength⟩ := chain.exists_suffix hc
  have hd := h.enough'
  have hstarted : pairOf t n ∈ F'.active := by
    refine (List.mem_cons.1 h.started).resolve_left fun he => hnew ?_
    rw [he, h.pair_eq]
    exact hback
  have hsame : pairOf t F'.node = pairOf t n := by
    rw [pairOf, pairOf, h.node]
    exact congrArg _ hpointer.symm
  rw [h.schema]
  refine run_visit_of_returns hrest (.inl (hsame ▸ hstarted)) ?_ hp
  rw [List.length_cons]
  omega

/-- Where an evaluation goes on to from a pair that is not being evaluated. -/
theorem Shortcut.entered (offline : g.fetchers = []) (normal : s.IsNormal) {d d' : Nat}
    {F F' : Frame} (h : Shortcut g s nodes t n (d + 1) F (d' + 1) F') (hm : F.pair ∉ F.active)
    (hl : Leads g.Sees (F.schema, F.node) (x, m)) :
    Shortcut g s nodes t n d ⟨F.entered, x, m⟩ d' ⟨F'.entered, x, m⟩ := by
  have hm' : F'.pair ∉ F'.active := fun hm' => hm ((h.active _).2 (.inl (h.pair_eq ▸ hm')))
  have hreach : F.pair ∈ reachablePairs g s n :=
    ((CanReach.start g s n).of_reaches offline normal h.reached).pair_mem
  have hleft : (pairsLeft (reachablePairs g s n) F.entered).card < _ := card_pairsLeft_lt hreach hm
  have hleft' : (pairsLeft (reachablePairs g s n) F'.entered).card < _ :=
    card_pairsLeft_lt (h.pair_eq ▸ hreach) hm'
  have henough := h.enough
  have henough' := h.enough'
  refine ⟨rfl, rfl, fun pair => ?_, List.mem_cons_of_mem _ h.started, h.reached.tail hl, ?_, ?_⟩
  · rw [Frame.entered, Frame.entered, h.pair_eq, List.mem_cons, List.mem_cons, h.active, or_assoc]
  · exact hleft.trans_le (Nat.le_of_lt_succ henough)
  · simp only
    omega

/-- **Whether or not an evaluation came along the chain**, the same happens. -/
theorem relates_visit_of_shortcut (offline : g.fetchers = []) (normal : s.IsNormal)
    (chain : g.Chain s nodes t) (apart : ToldApart g s nodes n)
    (hnew : pairOf t n ∉ nodes.map (pairOf · n)) {d d' : Nat} {F F' : Frame}
    (h : Shortcut g s nodes t n d F d' F') :
    Relates (chainLink g) Eq (visit d F.active F.schema F.node)
      (visit d' F'.active F'.schema F'.node) := by
  induction d generalizing F d' F' with
  | zero =>
    have := h.enough
    omega
  | succ d ih =>
    cases d' with
    | zero =>
      have := h.enough'
      omega
    | succ d' =>
      by_cases hm : F.pair ∈ F.active
      · rw [visit_of_mem hm]
        by_cases hm' : F'.pair ∈ F'.active
        · rw [visit_of_mem hm']
          exact .pure rfl
        · intro p q hlink
          have hq : g.Replays q.registry := hlink.1 ▸ hlink.2
          rw [h.run_visit_of_mem chain apart hnew hm hm' hq]
          exact ⟨hlink, .ok rfl, [], (List.append_nil _).symm, (List.append_nil _).symm⟩
      have hm' : F'.pair ∉ F'.active := fun hm' => hm ((h.active _).2 (.inl (h.pair_eq ▸ hm')))
      refine .visit_entered (R := fun m m' a b =>
          Shortcut g s nodes t n d ⟨F.entered, a, m⟩ d' ⟨F'.entered, b, m'⟩)
        hm hm' (by rw [h.schema]) (by rw [h.node]) (fun _ _ => by rw [h.node]; rfl) rfl ?_ ?_ ih
      · intro e e' he
        change forgetting [] _ = forgetting [] _
        rw [forgetting_forgetting, forgetting_forgetting]
        exact he
      · intro target m m' hb hl
        obtain rfl := (show Beside F.node F.node m m' from h.node ▸ hb).eq
        rw [h.schema]
        refine .find fun a b hlink => ?_
        obtain ⟨rfl, hreplays⟩ := hlink
        obtain ⟨hnow, hlater⟩ := hreplays.find F.schema target
        refine ⟨⟨rfl, hlater⟩, ?_⟩
        cases hfind : (a.find F.schema target).1 with
        | error cause => exact .error rfl
        | ok c =>
          rw [hfind] at hnow
          exact .ok (h.entered offline normal hm (.looksUp hl hnow.symm))

/-! ## Validations -/

/-- A validation, from a run with enough nesting. -/
theorem validate_eq_run (state : State) (offline : g.fetchers = []) (normal : s.IsNormal)
    (hd : (reachablePairs g s n).length < d) :
    (state.validate g s n).1 = ((visit d state.active s n).run ⟨g, state.messages⟩).1 ∧
      (state.validate g s n).2.1.messages =
        ((visit d state.active s n).run ⟨g, state.messages⟩).2.messages := by
  have hrun := (run_visit_eq offline normal n state.active hd (length_reachablePairs_lt g s n)
    state.messages).1
  rw [State.validate, hrun]
  rcases (visit (depthBound g s n.value) state.active s n).run ⟨g, state.messages⟩ with
    ⟨result, p⟩
  exact ⟨rfl, rfl⟩

/-- A chain that closes on itself is accepted. -/
theorem validate_of_closed (offline : g.fetchers = []) (normal : s.IsNormal)
    (chain : g.Chain s nodes t) (closed : t ∈ nodes) (n : Instance) :
    (State.validate {} g s n).1 = .ok true ∧ (State.validate {} g s n).2.1.messages = [] := by
  obtain ⟨d, hd, hd'⟩ : ∃ d, nodes.length < d ∧ (reachablePairs g s n).length < d :=
    ⟨nodes.length + (reachablePairs g s n).length + 1, by omega, by omega⟩
  have hreturns : (visit d [] s n).run ⟨g, []⟩ = (.ok true, ⟨g, []⟩) :=
    run_visit_of_returns chain (.inr closed) hd (.refl offline)
  have hrun := validate_eq_run {} offline normal hd'
  simp only at hrun
  rwa [hreturns] at hrun

/-- The evaluation of the end of a chain, on the way along the chain and on its own. -/
theorem relates_visit_of_open (offline : g.fetchers = []) (normal : s.IsNormal)
    (chain : g.Chain s nodes t) (apart : ToldApart g s nodes n)
    (hnew : pairOf t n ∉ nodes.map (pairOf · n))
    (hd : nodes.length + (reachablePairs g s n).length < d) :
    Relates (chainLink g) Eq (visit d ((nodes.map (pairOf · n)).reverse ++ []) t n)
      (visit d [] t n) := by
  have hleft := card_pairsLeft_le (reachablePairs g s n)
  have hstart : Shortcut g s nodes t n d ⟨(nodes.map (pairOf · n)).reverse ++ [], t, n⟩ d
      ⟨[], t, n⟩ :=
    { schema := rfl
      node := rfl
      active := fun pair => by simp
      started := List.mem_cons_self
      reached := reaches_of_chain chain n (List.mem_append_right _ (List.mem_singleton_self t))
      enough := by
        have := hleft ((nodes.map (pairOf · n)).reverse ++ [])
        simp only
        omega
      enough' := by
        have := hleft []
        simp only
        omega }
  exact relates_visit_of_shortcut offline normal chain apart hnew hstart

/-- A chain that does not close on itself comes out as its end does. -/
theorem validate_of_open (offline : g.fetchers = []) (normal : s.IsNormal) (normal' : t.IsNormal)
    (chain : g.Chain s nodes t) (opened : t ∉ nodes) (apart : ToldApart g s nodes n) :
    (State.validate {} g s n).1.mapError (forgetting []) =
        (State.validate {} g t n).1.mapError (forgetting []) ∧
      (State.validate {} g s n).2.1.messages = (State.validate {} g t n).2.1.messages := by
  have hpairs : ((nodes ++ [t]).map (pairOf · n)).Nodup := by
    refine (chain.nodup_of_notMem opened).map_on fun x hx y hy he => ?_
    have htext := (Prod.mk.inj he).1
    have hreached {x : SchemaNode} (hx : x ∈ nodes ++ [t]) := reaches_of_chain chain n hx
    rcases List.mem_append.1 hy with hy' | hy'
    · exact apart y hy' (x, n) (hreached hx) (decide_eq_true htext)
    · rcases List.mem_append.1 hx with hx' | hx'
      · exact (apart x hx' (y, n) (hreached hy) (decide_eq_true htext.symm)).symm
      · rw [List.mem_singleton.1 hx', List.mem_singleton.1 hy']
  rw [List.map_append, List.nodup_append] at hpairs
  obtain ⟨hnodup, -, hdisjoint⟩ := hpairs
  have hnew : pairOf t n ∉ nodes.map (pairOf · n) := fun hm =>
    hdisjoint _ hm _ (List.mem_map_of_mem (List.mem_singleton_self t)) rfl
  obtain ⟨d, hd, hd'⟩ : ∃ d, nodes.length + (reachablePairs g s n).length < d ∧
      (reachablePairs g t n).length < d :=
    ⟨nodes.length + (reachablePairs g s n).length + (reachablePairs g t n).length + 1, by omega,
      by omega⟩
  have hd'' : (reachablePairs g s n).length < d + nodes.length := by omega
  obtain ⟨hresult, hmessages⟩ := validate_eq_run {} offline normal hd''
  obtain ⟨hresult', hmessages'⟩ := validate_eq_run {} offline normal' hd'
  simp only at hresult hmessages hresult' hmessages'
  rw [run_visit_of_chain chain hnodup (fun _ _ => List.not_mem_nil) (.refl offline)]
    at hresult hmessages
  obtain ⟨-, ho, added, hm, hm'⟩ :=
    relates_visit_of_open offline normal chain apart hnew hd ⟨g, []⟩ ⟨g, []⟩ ⟨rfl, .refl offline⟩
  rw [← hresult, ← hresult'] at ho
  rw [← hmessages] at hm
  rw [← hmessages'] at hm'
  refine ⟨?_, ?_⟩
  · generalize (State.validate {} g s n).1 = x at ho ⊢
    generalize (State.validate {} g t n).1 = y at ho ⊢
    cases ho with
    | ok h => rw [h]
    | error h => exact congrArg Except.error h
  · rw [hm, hm']
    exact congrArg _ (List.map_id added)

/-- **Chains of references are transparent.** In a registry without fetchers, take a node that was
looked up in any registry, and a chain of references from there to a node `t`. Validations of an
instance against both, on fresh states, come to the same verdict or fault with the same messages, as
long as the schemas of the chain are not taken for others; a fault of overflow leaves different
pairs active. If the chain closes on itself, the instance is accepted without messages. -/
theorem validate_chain {g₀ : Registry} {r : Reference} (offline : g.fetchers = [])
    (normal : r.IsNormal) (found : (g₀.getSchema r).1 = .ok s) (chain : g.Chain s nodes t)
    (n : Instance) :
    (ToldApart g s nodes n →
      (State.validate {} g s n).1.mapError (forgetting []) =
          (State.validate {} g t n).1.mapError (forgetting []) ∧
        (State.validate {} g s n).2.1.messages = (State.validate {} g t n).2.1.messages) ∧
    (t ∈ nodes →
      (State.validate {} g s n).1 = .ok true ∧ (State.validate {} g s n).2.1.messages = []) := by
  have hs := Registry.isNormal_of_getSchema normal found
  have hreached : Reaches g.Sees (s, n) (t, n) :=
    reaches_of_chain chain n (List.mem_append_right _ (List.mem_singleton_self t))
  have ht : t.IsNormal :=
    ((CanReach.start g s n).of_reaches offline hs hreached).schema.isNormal hs
  refine ⟨fun apart => ?_, fun closed => ?_⟩
  · by_cases closed : t ∈ nodes
    · -- Both ends of the chain lie on the circle.
      obtain ⟨rest, hrest, -⟩ := chain.exists_suffix closed
      obtain ⟨hresult, hmessages⟩ := validate_of_closed offline hs chain closed n
      obtain ⟨hresult', hmessages'⟩ := validate_of_closed offline ht hrest List.mem_cons_self n
      rw [hresult, hresult', hmessages, hmessages']
      exact ⟨rfl, rfl⟩
    · exact validate_of_open offline hs ht chain closed apart
  · exact validate_of_closed offline hs chain closed n

/-- The locator of a document with a name. -/
def named (name : String) : Reference :=
  ⟨⟨none, none, name.toList, none, none⟩⟩

/-- A schema that is a reference. -/
def referring (name : String) : Json :=
  .obj [("$ref", .str name)]

/-- A schema for texts that refers back. -/
def returning : Json :=
  .obj [("type", .str "string"), ("$ref", .str "a")]

/-- A registry with a reference to a schema that refers back to it. -/
def roundTrip : Registry :=
  .called .standard [.register (named "a") (referring "t"), .register (named "t") returning]

/-- The node of the reference. -/
def outward : SchemaNode :=
  .of (named "a") (referring "t") []

/-- The node of the schema that it refers to. -/
def backward : SchemaNode :=
  .of (named "t") returning []

theorem forwards_outward : roundTrip.Forwards outward backward := by
  have hseen : roundTrip.seen? outward (.referenced (.str "t")) = some backward := by cbv
  exact ⟨.str "t", rfl, hseen⟩

theorem seen?_backward :
    roundTrip.seen? backward (.referenced (.str "a")) = some outward := by
  cbv

theorem eq_of_reaches_outward {p : Judgement}
    (h : Reaches roundTrip.Sees (outward, .root .null) p) :
    p = (outward, .root .null) ∨ p = (backward, .root .null) := by
  induction h with
  | refl => exact .inl rfl
  | tail _ hl ih =>
    rcases ih with rfl | rfl
    · exact .inr (eq_of_leads_of_forwards forwards_outward hl)
    · cases hl with
      | @looksUp _ _ _ _ target hlook hsees =>
        cases hlook with
        | child hm => cases hm
        | @constraint c _ hc ht =>
          have hc' : c ∈ [Constraint.type ⟨["string"], []⟩, .ref (.str "a")] := hc
          have ht' : target = .referenced (.str "a") := by
            simp only [List.mem_cons, List.not_mem_nil, or_false] at hc'
            rcases hc' with rfl | rfl
            · cases ht
            · exact List.mem_singleton.1 ht
          rw [ht', Registry.Sees, seen?_backward] at hsees
          cases hsees
          exact .inl rfl

theorem toldApart_outward : ToldApart roundTrip outward [outward] (.root .null) := by
  intro c hc p hp hsame
  obtain rfl := List.mem_singleton.1 hc
  rcases eq_of_reaches_outward hp with rfl | rfl
  · rfl
  · have hother : backward.reference.same outward.reference = false := by cbv
    rw [hother] at hsame
    cases hsame

/-- A registry with a reference to itself. -/
def standing : Registry :=
  .called .standard [.register (named "a") (referring "a")]

/-- A value that is no text is invalid against the reference and against what it refers to, and is
valid against the reference to itself. -/
theorem validate_chain_outward :
    (State.validate {} roundTrip outward (.root .null)).1.mapError (forgetting []) =
        (State.validate {} roundTrip backward (.root .null)).1.mapError (forgetting []) ∧
      (State.validate {} roundTrip outward (.root .null)).2.1.messages =
        (State.validate {} roundTrip backward (.root .null)).2.1.messages ∧
      (State.validate {} roundTrip backward (.root .null)).1.toOption = some false ∧
      (State.validate {} standing (.of (named "a") (referring "a") []) (.root .null)).1 =
        .ok true := by
  have hnormal : (named "a").IsNormal :=
    Reference.isNormal_of_parse (by cbv : Reference.parse "a" = _)
  have hfound : (roundTrip.getSchema (named "a")).1 = .ok outward := by cbv
  have hchain : roundTrip.Chain outward [outward] backward :=
    .cons forwards_outward (.nil backward)
  obtain ⟨hresult, hmessages⟩ :=
    (validate_chain (g := roundTrip) (by cbv) hnormal hfound hchain (.root .null)).1
      toldApart_outward
  have hseen : standing.seen? (.of (named "a") (referring "a") []) (.referenced (.str "a")) =
      some (.of (named "a") (referring "a") []) := by
    cbv
  have hcircle : standing.Chain (.of (named "a") (referring "a") [])
      [.of (named "a") (referring "a") []] (.of (named "a") (referring "a") []) :=
    .cons ⟨.str "a", rfl, hseen⟩ (.nil _)
  have hself : (standing.getSchema (named "a")).1 = .ok (.of (named "a") (referring "a") []) := by
    cbv
  obtain ⟨haccepted, -⟩ :=
    (validate_chain (g := standing) (by cbv) hnormal hself hcircle (.root .null)).2
      (List.mem_singleton_self _)
  exact ⟨hresult, hmessages, by cbv, haccepted⟩

/-- A schema for texts. -/
def textual : Json :=
  .obj [("type", .str "string")]

/-- A registry with two references to each other, the first of which was then replaced. -/
def replaced : Registry :=
  .called .standard [.register (named "a") (referring "b"), .register (named "b") (referring "a"),
    .register (named "a") textual]

/-- A registry with a document that has two locators with one text. -/
def namesakes : Registry :=
  .called .standard [.register (named "a:b/c") (referring "x"),
    .register (named "a:b/x") (referring "a:b/c"),
    .register (named "x") textual]

/-- **Schemas that are taken for others.** A reference that was replaced is taken for what stands in
its place: it leads to another reference and from there to the new schema, which is skipped on the
way from the old one. And `./a:b/c` is taken for `a:b/c`, which has the same text but anchors no
references, so that the one document leads to two others. -/
theorem validate_differs_of_replaced :
    (∃ s t, ((Registry.called .standard [.register (named "a") (referring "b"),
        .register (named "b") (referring "a")]).getSchema (named "a")).1 = .ok s ∧
      replaced.fetchers = [] ∧ replaced.Chain s [s] t ∧
      (State.validate {} replaced s (.root .null)).1.toOption = some true ∧
      (State.validate {} replaced t (.root .null)).1.toOption = some false) ∧
    ∃ r s t, Reference.parse "./a:b/c" = .ok r ∧ (namesakes.getSchema r).1 = .ok s ∧
      namesakes.fetchers = [] ∧ namesakes.Chain s [s] t ∧
      (State.validate {} namesakes s (.root .null)).1.toOption = some true ∧
      (State.validate {} namesakes t (.root .null)).1.toOption = some false := by
  have hreplaced : replaced.seen? (.of (named "a") (referring "b") []) (.referenced (.str "b")) =
      some (.of (named "b") (referring "a") []) := by
    cbv
  have hnamesakes : namesakes.seen? (.of (named "a:b/c") (referring "x") [])
      (.referenced (.str "x")) =
        some (.of (named "a:b/x") (referring "a:b/c") []) := by
    cbv
  refine ⟨⟨.of (named "a") (referring "b") [], .of (named "b") (referring "a") [], by cbv, by cbv,
    .cons ⟨.str "b", rfl, hreplaced⟩ (.nil _), by cbv, by cbv⟩, ?_⟩
  exact ⟨named "a:b/c", .of (named "a:b/c") (referring "x") [],
    .of (named "a:b/x") (referring "a:b/c") [], by cbv, by cbv, by cbv,
    .cons ⟨.str "x", rfl, hnamesakes⟩ (.nil _), by cbv, by cbv⟩

end Validation

end JsonSchema
