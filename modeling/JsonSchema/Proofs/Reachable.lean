import JsonSchema.Proofs.Fragment
import JsonSchema.Proofs.Subtree
import JsonSchema.Proofs.Targets
import Mathlib

/-!
# Finitely many schemas can be reached

Schemas may refer to each other in circles, a pointer may be spelled in several ways, and a locator
may be resolved against ever other bases. Still, only finitely many texts identify the schemas that
can be reached in a registry without fetchers: each lies in a document that is kept, at or below a
place that the fragment of some reference addresses there, and resolving keeps fragments.

* `fragments`: what the references of the documents at hand address.
* `Known`: a schema that lies at or below a place that one of these addresses.
* `Known.of_seen?`: what a known schema looks up is known.
* `addresses`: the texts that identify known schemas; `length_addresses_le` bounds their number.
-/

namespace JsonSchema

open Validation

/-! ## Nodes that look-ups give -/

namespace Reference

variable {base : Reference}

theorem IsNormal.refine (h : base.IsNormal) (v : Json) : (base.refine v).IsNormal := by
  unfold Reference.refine
  split
  · split
    · rename_i hr
      exact h.resolve (isNormal_of_parse hr)
    · exact h
  · exact h

theorem IsNormal.scope (h : base.IsNormal) (v : Json) (tokens : List (List Char)) :
    (base.scope v tokens).IsNormal := by
  induction tokens generalizing base v with
  | nil => exact h.refine v
  | cons token rest ih =>
    rw [Reference.scope]
    split
    · exact ih (h.refine v) _
    · exact h.refine v

end Reference

theorem Pointer.HasSteps.ofText {pointer : List Char} (h : HasSteps pointer) :
    Fragment.ofText pointer = .pointer pointer :=
  if_pos h

/-! ### Places that fragments address -/

theorem hasSteps_of_mem_or {a b : Option (List Char)} (ha : ∀ p ∈ a, Pointer.HasSteps p)
    (hb : ∀ p ∈ b, Pointer.HasSteps p) : ∀ p ∈ a.or b, Pointer.HasSteps p := by
  intro p hp
  rcases Option.or_eq_some_iff.1 hp with hp | ⟨-, hp⟩
  · exact ha p hp
  · exact hb p hp

/-- An anchor lies at or below the place where it is looked for. -/
theorem hasSteps_of_findAnchor? (id : String) (start : List Char) (v : Json) :
    Pointer.HasSteps start → ∀ p ∈ Json.findAnchor? id start v, Pointer.HasSteps p := by
  refine Json.findAnchor?.induct id
    (fun start v =>
      Pointer.HasSteps start → ∀ p ∈ Json.findAnchor? id start v, Pointer.HasSteps p)
    (fun start i items =>
      Pointer.HasSteps start → ∀ p ∈ Json.findAnchorItems? id start i items, Pointer.HasSteps p)
    (fun start members =>
      Pointer.HasSteps start → ∀ p ∈ Json.findAnchorMembers? id start members, Pointer.HasSteps p)
    ?here ?members ?items ?other ?noItem ?item ?noMember ?member start v
  case here =>
    intro start members hid hs p hp
    rw [Json.findAnchor?, if_pos hid] at hp
    cases hp
    exact hs
  case members =>
    intro start members hid hmembers
    rwa [Json.findAnchor?, if_neg hid]
  case items =>
    intro start items hitems
    rwa [Json.findAnchor?]
  case other =>
    intro v start hobj harr hs p hp
    rw [Json.findAnchor?] at hp
    · cases hp
    · exact hobj
    · exact harr
  case noItem => exact fun _ _ _ _ hp => by cases hp
  case item =>
    intro start i item rest hitem hrest hs
    rw [Json.findAnchorItems?]
    exact hasSteps_of_mem_or (hitem (hs.append_slash _)) (hrest hs)
  case noMember => exact fun _ _ _ hp => by cases hp
  case member =>
    intro start name value rest hvalue hrest hs
    rw [Json.findAnchorMembers?]
    exact hasSteps_of_mem_or (hvalue (hs.append_slash _)) (hrest hs)

theorem Fragment.hasSteps_of_locate? {f : Fragment} {d : Json} {place : List Char}
    (h : f.locate? d = some place) : Pointer.HasSteps place := by
  cases f with
  | pointer text =>
    obtain ⟨v, hv, rfl⟩ := Option.map_eq_some_iff.1 h
    exact Pointer.eq_nil_or_head?_of_tokens? (Json.isSome_tokens?_of_at? (by rw [hv]; rfl))
  | anchor name => exact hasSteps_of_findAnchor? _ [] d (.inl rfl) place h

/-- A node as look-ups give it: its locator and its base are in their normal form. -/
structure SchemaNode.IsNormal (s : SchemaNode) : Prop where
  stable : s.locator.IsStable
  locator : s.locator.IsNormal
  base : s.base.IsNormal
  steps : Pointer.HasSteps s.pointer

theorem SchemaNode.isNormal_of {n : Reference} (hs : n.IsStable) (hn : n.IsNormal) (d : Json)
    {pointer : List Char} (hp : Pointer.HasSteps pointer) :
    (SchemaNode.of n d pointer).IsNormal where
  stable := hs
  locator := hn
  base := hn.scope _ _
  steps := hp

/-- A node that a normal reference addresses. -/
theorem SchemaNode.isNormal_of_locate? {r : Reference} {d : Json} {pointer : List Char}
    (hr : r.IsNormal) (hp : r.fragment.locate? d = some pointer) :
    (SchemaNode.of r.toLocator d pointer).IsNormal :=
  isNormal_of (Reference.isStable_toLocator hr) hr.toLocator d (Fragment.hasSteps_of_locate? hp)

theorem Registry.isNormal_of_getSchema {g : Registry} {r : Reference} {s : SchemaNode}
    (hr : r.IsNormal) (h : (g.getSchema r).1 = .ok s) : s.IsNormal := by
  rw [getSchema_fst] at h
  obtain ⟨d, -, hn⟩ := Uri.bind_eq_ok_iff.1 h
  obtain ⟨pointer, hp, rfl⟩ := nodeOf_eq_ok hn
  exact SchemaNode.isNormal_of_locate? hr hp

/-- A member of a node is a value of its document. -/
theorem SchemaNode.exists_node_of_mem_members {s : SchemaNode} {name : String} {v : Json}
    (h : (name, v) ∈ s.raw.members) : ∃ m ∈ (Instance.root s.document).subtree, m.value = v := by
  obtain ⟨tokens, -, hwalk⟩ := Option.bind_eq_some_iff.1 (at?_of_mem_members h)
  obtain ⟨node, hnode, hraw, -⟩ :=
    Instance.exists_mem_subtree_of_walk? (n := Instance.root s.document) hwalk
  rw [← hraw] at h
  cases hv : node.value with
  | obj members =>
    rw [hv] at h
    have hchild : node.child (.field name) v ∈ node.children := by
      rw [Instance.children, hv]
      exact List.mem_map.2 ⟨_, List.mem_map.2 ⟨_, h, rfl⟩, rfl⟩
    exact ⟨_, Instance.mem_subtree_of_mem_children hnode hchild, rfl⟩
  | _ =>
    rw [hv] at h
    cases h

/-- A reference that is looked up is a member of the schema. -/
theorem Validation.LooksUp.mem_members {s : SchemaNode} {n n' : Instance} {value : Json}
    (h : LooksUp s n (.referenced value) n') : ("$ref", value) ∈ s.raw.members := by
  cases h with
  | @constraint c _ hc ht =>
    have htarget := Constraint.mem_targets_of_judge ht
    obtain ⟨keyword, written, hm, hw⟩ := Constraint.exists_member_of_mem (List.mem_filter.1 hc).1
    cases c with
    | ref reference =>
      obtain ⟨rfl, rfl⟩ := hw
      obtain rfl : value = reference := by simpa [Constraint.targets] using htarget
      exact hm
    | type union => simp [Constraint.targets, TypeUnion.targets] at htarget
    | disallow union => simp [Constraint.targets, TypeUnion.targets] at htarget
    | extension index => cases index <;> simp [Constraint.targets] at htarget
    | schemaDependency property => simp [Constraint.targets] at htarget
    | _ => cases htarget
  | child hm ht =>
    obtain ⟨step, hstep⟩ := Routing.exists_step_of_mem_childTargets ht
    exact Routing.checks_of_mem_targets hstep

namespace Registry

variable {g : Registry} {s a b : SchemaNode} {fs : List Fragment} {d : Json} {pointer : List Char}

/-! ## Known schemas -/

/-- The documents at hand: the one of a schema and those that are kept. -/
def documents (g : Registry) (s : SchemaNode) : List Json :=
  s.document :: g.cache.filterMap fun e => e.2.toOption

/-- What the references at hand address: the place of a schema, and the fragment of every text of
the documents. -/
def fragments (g : Registry) (s : SchemaNode) : List Fragment :=
  .pointer s.pointer :: (g.documents s).flatMap fun d =>
    (Instance.root d).subtree.filterMap fun m =>
      (Reference.ofJson m.value).toOption.map Reference.fragment

/-- A pointer to a place at or below one that a fragment addresses in a document. -/
def LiesBelow (fs : List Fragment) (d : Json) (pointer : List Char) : Prop :=
  ∃ f ∈ fs, ∃ place tokens, f.locate? d = some place ∧
    (((d.at? place).getD .null).walk? tokens).isSome ∧ pointer = tokens.foldl Pointer.child place

/-- A schema that can be reached from `s`: this one, or a place of a document that is kept, at or
below what one of the references at hand addresses there. -/
inductive Known (g : Registry) (s : SchemaNode) : SchemaNode → Prop
  | start : Known g s s
  | kept {a : SchemaNode} (normal : a.IsNormal) (kept : g.kept? a.locator = some a.document)
      (below : LiesBelow (g.fragments s) a.document a.pointer) : Known g s a

namespace Known

theorem isNormal (hs : s.IsNormal) (h : g.Known s a) : a.IsNormal := by
  cases h with
  | start => exact hs
  | kept normal => exact normal

theorem mem_documents (h : g.Known s a) : a.document ∈ g.documents s := by
  cases h with
  | start => exact List.mem_cons_self
  | kept _ hk _ =>
    exact List.mem_cons_of_mem _ (List.mem_filterMap.2 ⟨_, mem_cache_of_kept? hk, rfl⟩)

/-- What a reference in a known schema addresses is among the fragments at hand. -/
theorem fragment_mem (h : g.Known s a) {value : Json} (hm : ("$ref", value) ∈ a.raw.members)
    {r : Reference} (hr : Reference.ofJson value = .ok r) : r.fragment ∈ g.fragments s := by
  obtain ⟨m, hnode, rfl⟩ := SchemaNode.exists_node_of_mem_members hm
  refine List.mem_cons_of_mem _ (List.mem_flatMap.2 ⟨_, h.mem_documents, ?_⟩)
  exact List.mem_filterMap.2 ⟨m, hnode, by rw [hr]; rfl⟩

/-- What lies below a known schema, in the document that is kept for its locator. -/
theorem liesBelow (hs : s.IsNormal) (h : g.Known s a) (hk : g.kept? a.locator = some d)
    {tokens : List (List Char)} {w : Json}
    (hw : d.at? (tokens.foldl Pointer.child a.pointer) = some w) :
    LiesBelow (g.fragments s) d (tokens.foldl Pointer.child a.pointer) := by
  cases h with
  | start =>
    obtain ⟨v, hv, hwalk⟩ := hs.steps.exists_of_at?_foldl_child hw
    refine ⟨_, List.mem_cons_self, s.pointer, tokens, ?_, ?_, rfl⟩
    · rw [Fragment.locate?, hv]
      rfl
    · rw [hv, Option.getD_some, hwalk]
      rfl
  | kept normal hk' below =>
    obtain rfl : a.document = d := Option.some.inj (hk'.symm.trans hk)
    obtain ⟨f, hf, place, front, hplace, -, hpointer⟩ := below
    rw [hpointer, ← List.foldl_append] at hw ⊢
    obtain ⟨v, hv, hwalk⟩ := (Fragment.hasSteps_of_locate? hplace).exists_of_at?_foldl_child hw
    refine ⟨f, hf, place, front ++ tokens, hplace, ?_, rfl⟩
    rw [hv, Option.getD_some, hwalk]
    rfl

/-- **What a known schema looks up is known.** -/
theorem of_seen? (hg : g.fetchers = []) (hs : s.IsNormal) (h : g.Known s a) {n n' : Instance}
    {t : Target} (hl : LooksUp a n t n') (hsees : g.Sees a t b) : g.Known s b := by
  have ha := h.isNormal hs
  obtain ⟨r, d, pointer, hlocate, hk, hp, rfl⟩ := exists_of_seen? hg hsees
  cases t with
  | below tokens =>
    obtain rfl := Except.ok.inj hlocate
    have hplace := hp
    rw [ha.stable.fragment_withPointer, (ha.steps.foldl_child tokens).ofText] at hplace
    obtain ⟨w, hw, rfl⟩ := Option.map_eq_some_iff.1 hplace
    rw [ha.stable.toLocator_withPointer] at hk ⊢
    exact .kept (SchemaNode.isNormal_of ha.stable ha.locator d (ha.steps.foldl_child tokens)) hk
      (h.liesBelow hs hk hw)
  | referenced value =>
    obtain ⟨other, hother, rfl⟩ := Uri.map_eq_ok_iff.1 hlocate
    have hnormal : (a.base.resolve other).IsNormal :=
      ha.base.resolve (Reference.exists_points_of_ofJson hother).1
    refine .kept (SchemaNode.isNormal_of_locate? hnormal hp) hk ⟨other.fragment,
      h.fragment_mem hl.mem_members hother, pointer, [], ?_, rfl, rfl⟩
    rw [← Reference.fragment_resolve ha.base hother]
    exact hp

end Known

/-! ## Texts that identify known schemas -/

/-- The pointers to the places at or below those that fragments address in a document. -/
def pointersBelow (fs : List Fragment) (d : Json) : List (List Char) :=
  fs.flatMap fun f =>
    match f.locate? d with
    | some place => (Instance.mk ((d.at? place).getD .null) place none).subtree.map (·.pointer)
    | none => []

theorem LiesBelow.mem_pointersBelow (h : LiesBelow fs d pointer) :
    pointer ∈ pointersBelow fs d := by
  obtain ⟨f, hf, place, tokens, hplace, hwalk, rfl⟩ := h
  obtain ⟨w, hw⟩ := Option.isSome_iff_exists.1 hwalk
  obtain ⟨m, hm, -, hpointer⟩ := Instance.exists_mem_subtree_of_walk?
    (n := ⟨(d.at? place).getD .null, place, none⟩) hw
  refine List.mem_flatMap.2 ⟨f, hf, ?_⟩
  rw [hplace]
  exact List.mem_map.2 ⟨m, hm, hpointer⟩

theorem size_at?_getD_le (d : Json) (pointer : List Char) :
    ((d.at? pointer).getD .null).size ≤ d.size := by
  cases hat : d.at? pointer with
  | none => exact d.size_pos
  | some v =>
    obtain ⟨tokens, -, hwalk⟩ := Option.bind_eq_some_iff.1 hat
    exact Json.size_le_of_walk? hwalk

theorem length_pointersBelow_le (fs : List Fragment) (d : Json) :
    (pointersBelow fs d).length ≤ fs.length * d.size := by
  rw [pointersBelow, List.length_flatMap, ← smul_eq_mul]
  refine (List.sum_le_card_nsmul _ d.size fun k hk => ?_).trans_eq (by rw [List.length_map])
  obtain ⟨f, -, rfl⟩ := List.mem_map.1 hk
  split
  · rw [List.length_map, Instance.length_subtree]
    exact size_at?_getD_le d _
  · exact Nat.zero_le _

/-- The texts that identify the places at or below those that fragments address in a document, if
one is kept for a locator. -/
def addressesIn (fs : List Fragment) : List Char × Outcome → List (List Char)
  | (locator, .ok d) =>
    (pointersBelow fs d).map fun pointer => locator ++ '#' :: Reference.encodeFragment pointer
  | (_, .error _) => []

/-- The texts that identify the schemas that can be reached from `s`. -/
def addresses (g : Registry) (s : SchemaNode) : List (List Char) :=
  s.reference.canonical :: g.cache.flatMap (addressesIn (g.fragments s))

/-- **Known schemas are identified by these texts.** -/
theorem Known.mem_addresses (h : g.Known s a) : a.reference.canonical ∈ g.addresses s := by
  cases h with
  | start => exact List.mem_cons_self
  | kept normal hk below =>
    refine List.mem_cons_of_mem _ (List.mem_flatMap.2 ⟨_, mem_cache_of_kept? hk, ?_⟩)
    refine List.mem_map.2 ⟨a.pointer, below.mem_pointersBelow, ?_⟩
    exact (normal.stable.canonical_withPointer a.pointer).symm

theorem sum_size_documents (g : Registry) (s : SchemaNode) :
    ((g.documents s).map Json.size).sum = s.document.size + g.size := by
  rw [documents, List.map_cons, List.sum_cons, size]
  congr 1
  induction g.cache with
  | nil => rfl
  | cons e rest ih =>
    obtain ⟨key, outcome⟩ := e
    cases outcome with
    | ok d => exact congrArg (d.size + ·) ih
    | error cause =>
      rw [List.filterMap_cons_none (by rfl), ih]
      simp

theorem length_fragments_le (g : Registry) (s : SchemaNode) :
    (g.fragments s).length ≤ g.size + s.document.size + 1 := by
  have hdocument (d : Json) : ((Instance.root d).subtree.filterMap fun m =>
      (Reference.ofJson m.value).toOption.map Reference.fragment).length ≤ d.size := by
    refine (List.length_filterMap_le _ _).trans_eq ?_
    rw [Instance.length_subtree]
    rfl
  have hsum := List.sum_le_sum fun d (_ : d ∈ g.documents s) => hdocument d
  rw [sum_size_documents] at hsum
  rw [fragments, List.length_cons, List.length_flatMap]
  omega

theorem length_flatMap_addressesIn_le (fs : List Fragment) (g : Registry) :
    (g.cache.flatMap (addressesIn fs)).length ≤ fs.length * g.size := by
  rw [size]
  induction g.cache with
  | nil => exact Nat.zero_le _
  | cons e rest ih =>
    obtain ⟨locator, outcome⟩ := e
    rw [List.flatMap_cons, List.length_append, List.map_cons, List.foldr_cons, Nat.mul_add]
    refine Nat.add_le_add ?_ ih
    cases outcome with
    | ok d =>
      rw [addressesIn, List.length_map]
      exact length_pointersBelow_le fs d
    | error cause => exact Nat.zero_le _

/-- There are no more of them than there are pairs of places. -/
theorem length_addresses_le (g : Registry) (s : SchemaNode) :
    (g.addresses s).length ≤
      (g.size + s.document.size + 1) * (g.size + s.document.size + 1) := by
  have hcache := length_flatMap_addressesIn_le (g.fragments s) g
  have hfragments := Nat.mul_le_mul_right g.size (length_fragments_le g s)
  have hplaces : (g.size + s.document.size + 1) * g.size + 1 ≤
      (g.size + s.document.size + 1) * (g.size + s.document.size + 1) := by
    have := s.document.size_pos
    nlinarith
  rw [addresses, List.length_cons]
  omega

end Registry

end JsonSchema
