import JsonSchema.Proofs.Nesting
import JsonSchema.Proofs.Reachable
import JsonSchema.Proofs.Simulation
import Mathlib

/-!
# Validation ends

An evaluation that leaves the matter to another schema comes to no smaller schema, and maybe to no
smaller value. What gets smaller is the set of pairs that it can come to and that are not being
evaluated yet: a pair that is being evaluated is not evaluated again, and there are finitely many.

* `reachablePairs`: the pairs that an evaluation can come to.
* `CanReach.of_reaches`: nested evaluations come to no other ones.
* `EndsWithin`: frames with a bound on the nesting that exceeds the number of pairs left;
  `isSimulation_endsWithin` says that the bound makes no difference for them.
* `validate_ends`: validation comes to an end, however large the bound, and nests at most as deep as
  there are pairs.
-/

namespace JsonSchema.Validation

open Evaluation

variable {g : Registry} {s b : SchemaNode} {n m : Instance} {F G : Frame} {t : Target}

/-! ## Pairs that can be reached -/

/-- The pairs that the evaluation of a schema on a node can come to. -/
def reachablePairs (g : Registry) (s : SchemaNode) (n : Instance) : List Pair :=
  g.addresses s ×ˢ n.subtree.map (·.pointer)

theorem length_reachablePairs_lt (g : Registry) (s : SchemaNode) (n : Instance) :
    (reachablePairs g s n).length < depthBound g s n.value := by
  have hpairs := Nat.mul_le_mul_right n.value.size (Registry.length_addresses_le g s)
  have hallowance : 0 < allowance := by decide
  rw [reachablePairs, List.length_product, List.length_map, Instance.length_subtree]
  exact Nat.lt_of_le_of_lt hpairs (Nat.lt_add_of_pos_right hallowance)

/-- A schema and a node that the evaluation of a schema on a node can come to. -/
structure CanReach (g : Registry) (s : SchemaNode) (n : Instance) (p : Judgement) : Prop where
  schema : g.Known s p.1
  node : p.2 ∈ n.subtree

namespace CanReach

variable {p q : Judgement}

theorem start (g : Registry) (s : SchemaNode) (n : Instance) : CanReach g s n (s, n) :=
  ⟨.start, Instance.mem_subtree_self n⟩

theorem pair_mem (h : CanReach g s n p) : pairOf p.1 p.2 ∈ reachablePairs g s n :=
  List.mem_product.2 ⟨h.schema.mem_addresses, List.mem_map_of_mem h.node⟩

/-- What is looked up can be reached. -/
theorem of_looksUp (hg : g.fetchers = []) (hs : s.IsNormal) (h : CanReach g s n p)
    (hl : LooksUp p.1 p.2 t m) (hsees : g.Sees p.1 t b) : CanReach g s n (b, m) where
  schema := h.schema.of_seen? hg hs hl hsees
  node := by
    cases hl with
    | constraint => exact h.node
    | child hm => exact Instance.mem_subtree_of_mem_children h.node hm

/-- **Evaluations come to no other pairs.** -/
theorem of_reaches (hg : g.fetchers = []) (hs : s.IsNormal) (h : CanReach g s n p)
    (hr : Reaches g.Sees p q) : CanReach g s n q := by
  induction hr with
  | refl => exact h
  | tail _ hstep ih =>
    cases hstep with
    | looksUp hl hsees => exact ih.of_looksUp hg hs hl hsees

end CanReach

/-! ## Pairs that are left -/

/-- The pairs of a list that are not being evaluated. -/
def pairsLeft (pairs active : List Pair) : Finset Pair :=
  pairs.toFinset \ active.toFinset

theorem card_pairsLeft_le (pairs active : List Pair) :
    (pairsLeft pairs active).card ≤ pairs.length :=
  (Finset.card_le_card Finset.sdiff_subset).trans pairs.toFinset_card_le

/-- **Each evaluation leaves fewer pairs.** -/
theorem card_pairsLeft_lt {pairs active : List Pair} {pair : Pair} (hm : pair ∈ pairs)
    (hn : pair ∉ active) :
    (pairsLeft pairs (pair :: active)).card < (pairsLeft pairs active).card := by
  have hsubset : pairsLeft pairs (pair :: active) ⊆ pairsLeft pairs active := by
    refine Finset.sdiff_subset_sdiff (Finset.Subset.refl _) fun p hp => ?_
    exact List.mem_toFinset.2 (List.mem_cons_of_mem _ (List.mem_toFinset.1 hp))
  refine Finset.card_lt_card ((Finset.ssubset_iff_of_subset hsubset).2 ⟨pair, ?_, ?_⟩)
  · simp [pairsLeft, hm, hn]
  · simp [pairsLeft]

/-! ## Two bounds on the nesting -/

/-- What happens under one bound, to what happens under another: the same, and neither bound is
reached. -/
def endingLink (g : Registry) : Link where
  registries a b := a = b ∧ g.Replays a
  faults e e' := e = e' ∧ e ≠ .exhausted
  message := id

/-- A frame under two bounds on the nesting, both greater than the number of pairs left. -/
structure EndsWithin (g : Registry) (s : SchemaNode) (n : Instance) (depth : Nat) (F : Frame)
    (depth' : Nat) (F' : Frame) : Prop where
  frame : F = F'
  reach : CanReach g s n (F.schema, F.node)
  enough : (pairsLeft (reachablePairs g s n) F.active).card < depth
  enough' : (pairsLeft (reachablePairs g s n) F.active).card < depth'

/-- **Whatever the bound, evaluations go the same way**, if it exceeds the number of pairs left. -/
theorem isSimulation_endsWithin (hg : g.fetchers = []) (hs : s.IsNormal) (n : Instance) :
    IsSimulation (endingLink g) (EndsWithin g s n) where
  forgetting h e e' he := by
    obtain ⟨rfl, hne⟩ := he
    obtain rfl := h.frame
    cases e with
    | overflow active => exact ⟨rfl, nofun⟩
    | unresolved cause => exact ⟨rfl, nofun⟩
    | exhausted => exact absurd rfl hne
  exhausted h hzero := by
    have := h.enough
    have := h.enough'
    omega
  raw h := by rw [h.frame]
  value h := by rw [h.frame]
  active h := by rw [h.frame]
  message h _ _ := by
    rw [h.frame]
    rfl
  overflow h := by
    rw [h.frame]
    exact ⟨rfl, nofun⟩
  found {d F d' F' t m m'} h hnew hb hl := by
    obtain rfl := h.frame
    obtain rfl := hb.eq
    have hleft : (pairsLeft (reachablePairs g s n) F.entered).card <
        (pairsLeft (reachablePairs g s n) F.active).card :=
      card_pairsLeft_lt h.reach.pair_mem hnew
    refine .find fun a a' hlink => ?_
    obtain ⟨rfl, hreplays⟩ := hlink
    obtain ⟨hnow, hlater⟩ := hreplays.find F.schema t
    refine ⟨⟨rfl, hlater⟩, ?_⟩
    cases hfind : (a.find F.schema t).1 with
    | error cause => exact .error ⟨rfl, nofun⟩
    | ok c =>
      rw [hfind] at hnow
      exact .ok ⟨rfl, h.reach.of_looksUp hg hs hl hnow.symm,
        hleft.trans_le (Nat.le_of_lt_succ h.enough), hleft.trans_le (Nat.le_of_lt_succ h.enough')⟩

/-- Evaluations under two bounds that exceed the number of pairs run alike, to an end. -/
theorem run_visit_eq (hg : g.fetchers = []) (hs : s.IsNormal) (n : Instance) (active : List Pair)
    {depth depth' : Nat} (hdepth : (reachablePairs g s n).length < depth)
    (hdepth' : (reachablePairs g s n).length < depth') (messages : List Message) :
    (visit depth active s n).run ⟨g, messages⟩ = (visit depth' active s n).run ⟨g, messages⟩ ∧
      ((visit depth active s n).run ⟨g, messages⟩).1 ≠ .error .exhausted := by
  have hleft := card_pairsLeft_le (reachablePairs g s n) active
  have hstart : EndsWithin g s n depth ⟨active, s, n⟩ depth' ⟨active, s, n⟩ :=
    ⟨rfl, .start g s n, by simp only; omega, by simp only; omega⟩
  obtain ⟨⟨hregistry, -⟩, ho, added, hmessages, hmessages'⟩ :=
    (isSimulation_endsWithin hg hs n).relates_visit hstart ⟨g, messages⟩ ⟨g, messages⟩
      ⟨rfl, .refl hg⟩
  simp only at hregistry ho hmessages hmessages'
  rcases hx : (visit depth active s n).run ⟨g, messages⟩ with ⟨x, p⟩
  rcases hy : (visit depth' active s n).run ⟨g, messages⟩ with ⟨y, q⟩
  rw [hx] at hregistry ho hmessages
  rw [hy] at hregistry ho hmessages'
  have hprogress : p = q := by
    rw [show (endingLink g).message = id from rfl, List.map_id] at hmessages
    obtain ⟨registry, written⟩ := p
    obtain ⟨registry', written'⟩ := q
    rw [Progress.mk.injEq]
    exact ⟨hregistry, hmessages.trans hmessages'.symm⟩
  subst hprogress
  cases ho with
  | ok h => exact ⟨by rw [h], nofun⟩
  | error h => exact ⟨by rw [h.1], fun he => h.2 (Except.error.inj he)⟩

/-- **Validation ends**, with a verdict or a fault of a schema or a value, in every registry without
fetchers and every state, for every schema that was looked up in any registry. There are finitely
many pairs that it can come to, fewer than its bound on the nesting; every bound that exceeds their
number gives the same run. Whatever is evaluated within it is one of these pairs, and the pairs that
are being evaluated meanwhile are the ones of the state and, in front of them, different others of
these pairs. -/
theorem validate_ends {g₀ : Registry} {r : Reference} (offline : g.fetchers = [])
    (normal : r.IsNormal) (found : (g₀.getSchema r).1 = .ok s) (state : State) (n : Instance) :
    (state.validate g s n).1 ≠ .error .exhausted ∧
    ∃ pairs : List Pair, pairs.length < depthBound g s n.value ∧
      (∀ depth, pairs.length < depth →
        (visit depth state.active s n).run ⟨g, state.messages⟩ =
          (visit (depthBound g s n.value) state.active s n).run ⟨g, state.messages⟩) ∧
      ∀ F, Within g.Sees ⟨state.active, s, n⟩ F → F.pair ∈ pairs ∧
        ∃ chain, F.active = chain ++ state.active ∧ chain ⊆ pairs ∧ chain.Nodup ∧
          chain.Disjoint state.active ∧ chain.length ≤ pairs.length := by
  have hs := Registry.isNormal_of_getSchema normal found
  have hbound := length_reachablePairs_lt g s n
  have hreached {p : Judgement} (hp : Reaches g.Sees (s, n) p) :
      pairOf p.1 p.2 ∈ reachablePairs g s n :=
    ((CanReach.start g s n).of_reaches offline hs hp).pair_mem
  refine ⟨?_, reachablePairs g s n, hbound, fun depth hdepth => ?_, fun F hF => ?_⟩
  · have hends := (run_visit_eq offline hs n state.active hbound hbound state.messages).2
    unfold State.validate
    exact hends
  · exact (run_visit_eq offline hs n state.active hdepth hbound state.messages).1
  · obtain ⟨chain, hchain, hnodup, hdisjoint, hpairs⟩ := hF.exists_chain
    have hsubset : chain ⊆ reachablePairs g s n := by
      intro pair hm
      obtain ⟨p, hp, rfl⟩ := hpairs pair hm
      exact hreached hp
    have hpair : F.pair ∈ reachablePairs g s n := hreached (p := (F.schema, F.node)) hF.reaches
    exact ⟨hpair, chain, hchain, hsubset, hnodup, hdisjoint, (hnodup.subperm hsubset).length_le⟩

/-- A schema that extends a place of another document. -/
def forth : Json :=
  .obj [("extends", .obj [("$ref", .str "back#/a~1b")])]

/-- The other document, where the place leads back to the schema. -/
def back : Json :=
  .obj [("a/b", .obj [("type", .arr [.obj [("$ref", .str "forth")], .str "null"])])]

def forthLocator : Reference :=
  ⟨⟨none, none, "forth".toList, none, none⟩⟩

def forthRoot : SchemaNode :=
  .of forthLocator forth []

/-- A registry of the two documents. -/
def circle : Registry :=
  ⟨[], ⟨[]⟩, [("forth".toList, .ok forth), ("back".toList, .ok back)], []⟩

theorem validate_ends_circle : circle.fetchers = [] ∧ forthLocator.IsNormal ∧
    (circle.getSchema forthLocator).1 = .ok forthRoot ∧
    (State.validate {} circle forthRoot (.root (.bool true))).1 = .ok true ∧
    ∃ pairs : List Pair, ∀ F, Within circle.Sees ⟨[], forthRoot, .root (.bool true)⟩ F →
      F.pair ∈ pairs ∧ F.active.Nodup ∧ F.active.length ≤ pairs.length := by
  have hparse : Reference.parse "forth" = .ok forthLocator := by cbv
  have hnormal := Reference.isNormal_of_parse hparse
  have hfound : (circle.getSchema forthLocator).1 = .ok forthRoot := by cbv
  obtain ⟨-, pairs, -, -, hpairs⟩ :=
    validate_ends (g := circle) rfl hnormal hfound {} (.root (.bool true))
  refine ⟨rfl, hnormal, hfound, by cbv, pairs, fun F hF => ?_⟩
  obtain ⟨hpair, chain, hchain, -, hnodup, -, hlength⟩ := hpairs F hF
  rw [List.append_nil] at hchain
  rw [hchain]
  exact ⟨hpair, hnodup, hlength⟩

end JsonSchema.Validation
