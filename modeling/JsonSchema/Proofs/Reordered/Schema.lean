import JsonSchema.Proofs.Reordered
import JsonSchema.Registry
import Mathlib

/-!
# Schemas up to the order of members

A schema document may be given with the members of its objects in another order. References still
lead to the same places of it, and resolve against the same bases, as long as no two objects have
the same anchor: the first object with an anchor, in document order, may become another one
otherwise.

* `Json.anchors`: the anchors in a document.
* `Json.findAnchor?_eq`: an anchor is looked for among the nodes of the document.
* `Fragment.locate?_eq`: what a fragment addresses.
* `Reference.scope_eq`: the base at a place.
* `SchemaNode.Alike`: places that hold schemas that are alike.
-/

namespace JsonSchema

/-! ## Nodes of instances -/

namespace Instance

/-- Nodes at the same place of values that are alike. -/
structure Alike (n n' : Instance) : Prop where
  value : n.value.Alike n'.value
  pointer : n.pointer = n'.pointer
  step : n.step = n'.step

variable {n n' m : Instance}

theorem Alike.children (h : n.Alike n') : PermBy Alike n.children n'.children :=
  h.value.parts.map fun p q hpq => by
    refine ⟨hpq.2, ?_, congrArg some hpq.1⟩
    change n.pointer ++ '/' :: p.1.token = n'.pointer ++ '/' :: q.1.token
    rw [h.pointer, hpq.1]

theorem subtree_eq (n : Instance) : n.subtree = n :: n.children.flatMap subtree := by
  rw [subtree]
  simp

theorem Alike.exists_mem_subtree (h : n.Alike n') (hm : m ∈ n.subtree) :
    ∃ m' ∈ n'.subtree, m.Alike m' := by
  induction hm using subtree_induction generalizing n' with
  | here => exact ⟨n', mem_subtree_self n', h⟩
  | above hc _ ih =>
    obtain ⟨c', hc', halike⟩ := h.children.exists_right hc
    obtain ⟨m', hm', hmm'⟩ := ih halike
    exact ⟨m', mem_subtree_iff.2 (.inr ⟨c', hc', hm'⟩), hmm'⟩

end Instance

/-! ## Anchors -/

namespace Json

variable {v w : Json} {id : String}

/-- The anchor of an object: its `id`, if that is a string that starts with `#`. -/
def anchor? (v : Json) : Option String :=
  ((v.get? "id").bind asString?).filter fun id => id.toList.head? = some '#'

/-- The anchors of the objects in a document. -/
def anchors (document : Json) : List String :=
  (Instance.root document).subtree.filterMap fun n => n.value.anchor?

theorem hasId_iff_anchor? (h : id.toList.head? = some '#') :
    v.hasId id ↔ v.anchor? = some id := by
  unfold hasId anchor?
  cases (v.get? "id").bind asString? with
  | none => simp
  | some other =>
    simp only [beq_iff_eq, Option.some.injEq, Option.filter_eq_some_iff, decide_eq_true_eq]
    exact ⟨fun he => ⟨he, he ▸ h⟩, fun he => he.1⟩

theorem Alike.hasId_eq (h : Alike v w) (id : String) : v.hasId id = w.hasId id := by
  have hget := h.get? "id"
  unfold hasId
  generalize v.get? "id" = x at hget ⊢
  generalize w.get? "id" = y at hget ⊢
  cases hget with
  | none => rfl
  | some hxy => simp only [Option.bind_some, hxy.asString?_eq]

theorem findAnchorMembers?_eq (id : String) (pointer : List Char)
    (members : List (String × Json)) : findAnchorMembers? id pointer members =
      members.findSome? fun m => findAnchor? id (Pointer.child pointer m.1.toList) m.2 := by
  induction members with
  | nil => rfl
  | cons m rest ih =>
    rw [findAnchorMembers?, ih, List.findSome?_cons]
    cases findAnchor? id (Pointer.child pointer m.1.toList) m.2 <;> rfl

theorem findAnchorItems?_eq (id : String) (pointer : List Char) (i : Nat) (items : List Json) :
    findAnchorItems? id pointer i items =
      (items.mapIdx fun j item => (PathStep.index (i + j), item)).findSome? fun p =>
        findAnchor? id (pointer ++ '/' :: p.1.token) p.2 := by
  induction items generalizing i with
  | nil => rfl
  | cons item rest ih =>
    rw [findAnchorItems?, ih, List.mapIdx_cons, List.findSome?_cons]
    simp only [Nat.add_zero, Nat.add_assoc, Nat.add_comm 1, Pointer.item, PathStep.token]
    cases findAnchor? id (pointer ++ '/' :: Nat.toDigits 10 i) item <;> rfl

/-- An anchor is looked for in a value itself, and then in its parts. -/
theorem findAnchor?_parts (id : String) (pointer : List Char) (v : Json) :
    findAnchor? id pointer v = if v.hasId id then some pointer else
      (Instance.parts v).findSome? fun p =>
        findAnchor? id (pointer ++ '/' :: p.1.token) p.2 := by
  cases v with
  | obj members =>
    rw [findAnchor?, findAnchorMembers?_eq, Instance.parts, List.findSome?_map]
    rfl
  | arr items =>
    have hid : (Json.arr items).hasId id = false := rfl
    rw [findAnchor?, findAnchorItems?_eq, Instance.parts, hid, if_neg Bool.false_ne_true]
    simp only [Nat.zero_add]
  | _ => rfl

/-- **An anchor is looked for among the nodes of a document**, in pre-order. -/
theorem findAnchor?_eq (id : String) (n : Instance) :
    findAnchor? id n.pointer n.value =
      (n.subtree.find? fun m => m.value.hasId id).map (·.pointer) := by
  induction hn : n.value.size using Nat.strongRecOn generalizing n with
  | ind size ih =>
    rw [findAnchor?_parts, Instance.subtree_eq, List.find?_cons]
    cases n.value.hasId id with
    | true => rfl
    | false =>
      rw [if_neg Bool.false_ne_true, List.find?_flatMap, Instance.children, List.findSome?_map,
        List.map_findSome?, ← List.head?_filterMap, ← List.head?_filterMap]
      refine congrArg List.head? (List.filterMap_congr fun p hp => ?_)
      exact ih _ (hn ▸ Instance.size_lt_of_mem_parts hp) (n.child p.1 p.2) rfl

/-- No two nodes of a document have one anchor. -/
theorem eq_of_anchor?_eq_some {document : Json} {m n : Instance} (hu : document.anchors.Nodup)
    (hm : m ∈ (Instance.root document).subtree) (hn : n ∈ (Instance.root document).subtree)
    (hid : m.value.anchor? = some id) (hid' : n.value.anchor? = some id) : m = n := by
  by_contra hne
  rw [anchors, List.Nodup, List.pairwise_filterMap] at hu
  have hsymm : Std.Symm fun a b : Instance =>
      ∀ x, a.value.anchor? = some x → ∀ y, b.value.anchor? = some y → x ≠ y :=
    ⟨fun a b h x hx y hy he => h y hy x hx he.symm⟩
  exact hu.forall hm hn hne id hid id hid' rfl

/-- **An anchor leads to the same place** of documents that are alike, if it is the only one. -/
theorem Alike.findAnchor?_eq {document document' : Json} (h : Alike document document')
    (hu : document.anchors.Nodup) (hid : id.toList.head? = some '#') :
    findAnchor? id [] document = findAnchor? id [] document' := by
  have hroot : (Instance.root document).Alike (.root document') := ⟨h, rfl, rfl⟩
  have hroot' : (Instance.root document').Alike (.root document) := ⟨h.symm, rfl, rfl⟩
  change findAnchor? id (Instance.root document).pointer (Instance.root document).value =
    findAnchor? id (Instance.root document').pointer (Instance.root document').value
  rw [Json.findAnchor?_eq, Json.findAnchor?_eq]
  cases hfind : (Instance.root document).subtree.find? fun m => m.value.hasId id with
  | none =>
    rw [List.find?_eq_none] at hfind
    have hnone : (Instance.root document').subtree.find? (fun m => m.value.hasId id) = none := by
      rw [List.find?_eq_none]
      intro m' hm' hid'
      obtain ⟨m, hm, halike⟩ := hroot'.exists_mem_subtree hm'
      exact hfind m hm (halike.value.hasId_eq id ▸ hid')
    rw [hnone]
  | some m =>
    have hm := List.mem_of_find?_eq_some hfind
    have hmid : m.value.hasId id := by simpa using List.find?_some hfind
    obtain ⟨m', hm', halike⟩ := hroot.exists_mem_subtree hm
    have hfound : ((Instance.root document').subtree.find? fun m => m.value.hasId id).isSome := by
      rw [List.find?_isSome]
      exact ⟨m', hm', halike.value.hasId_eq id ▸ hmid⟩
    obtain ⟨n', hfind'⟩ := Option.isSome_iff_exists.1 hfound
    have hnid' : n'.value.hasId id := by simpa using List.find?_some hfind'
    obtain ⟨n, hn, halike'⟩ := hroot'.exists_mem_subtree (List.mem_of_find?_eq_some hfind')
    have hnid : n.value.hasId id := halike'.value.hasId_eq id ▸ hnid'
    -- The place found in the other document corresponds to the only one with this anchor.
    have hmn : m = n := eq_of_anchor?_eq_some hu hm hn ((hasId_iff_anchor? hid).1 hmid)
      ((hasId_iff_anchor? hid).1 hnid)
    rw [hfind', hmn]
    exact congrArg some halike'.pointer.symm

/-- Documents that are alike, in which fragments address the same places. -/
structure AlikePlaces (document document' : Json) : Prop where
  alike : Alike document document'
  locate?_eq : ∀ f : Fragment, f.locate? document = f.locate? document'

theorem AlikePlaces.refl (h : v.WellFormed) : AlikePlaces v v :=
  ⟨.refl h, fun _ => rfl⟩

theorem Alike.places {document document' : Json} (h : Alike document document')
    (hu : document.anchors.Nodup) : AlikePlaces document document' := by
  refine ⟨h, fun f => ?_⟩
  cases f with
  | pointer p =>
    have hat := h.at? p
    simp only [Fragment.locate?]
    generalize document.at? p = x at hat ⊢
    generalize document'.at? p = y at hat ⊢
    cases hat <;> rfl
  | anchor name => exact h.findAnchor?_eq hu (by rw [String.toList_ofList]; rfl)

end Json

/-! ## Bases -/

namespace Reference

variable {v w : Json}

theorem ofJson_eq (h : v.Alike w) : ofJson v = ofJson w := by
  cases h.view <;> rfl

theorem refine_eq (base : Reference) (h : v.Alike w) : base.refine v = base.refine w := by
  have hget := h.get? "id"
  unfold refine
  generalize v.get? "id" = x at hget ⊢
  generalize w.get? "id" = y at hget ⊢
  cases hget with
  | none => rfl
  | some hxy => cases hxy.view <;> rfl

/-- **References at a place resolve against the same base.** -/
theorem scope_eq (base : Reference) (h : v.Alike w) (tokens : List (List Char)) :
    base.scope v tokens = base.scope w tokens := by
  induction tokens generalizing base v w with
  | nil => exact refine_eq base h
  | cons token rest ih =>
    have hbelow := h.below? token
    unfold scope
    generalize v.below? token = x at hbelow ⊢
    generalize w.below? token = y at hbelow ⊢
    cases hbelow with
    | none => exact refine_eq base h
    | some hxy =>
      rw [refine_eq base h]
      exact ih _ hxy

theorem secondLocator?_eq (locator : Reference) (h : v.Alike w) :
    locator.secondLocator? v = locator.secondLocator? w := by
  have hget := h.get? "id"
  unfold secondLocator?
  generalize v.get? "id" = x at hget ⊢
  generalize w.get? "id" = y at hget ⊢
  cases hget with
  | none => rfl
  | some hxy => cases hxy.view <;> rfl

end Reference

theorem Registry.rootLocator_eq {v w : Json} (h : v.Alike w) : rootLocator v = rootLocator w := by
  have hget := h.get? "id"
  unfold rootLocator
  generalize v.get? "id" = x at hget ⊢
  generalize w.get? "id" = y at hget ⊢
  cases hget with
  | none => rfl
  | some hxy => simp only [Reference.ofJson_eq hxy]

/-! ## Schemas -/

/-- The same places of documents, which hold values that are alike. -/
structure SchemaNode.Alike (s s' : SchemaNode) : Prop where
  locator : s.locator = s'.locator
  pointer : s.pointer = s'.pointer
  base : s.base = s'.base
  raw : s.raw.Alike s'.raw

namespace SchemaNode.Alike

variable {s s' : SchemaNode}

theorem reference_eq (h : s.Alike s') : s.reference = s'.reference := by
  rw [reference, reference, h.locator, h.pointer]

/-- The same places are seen from both. -/
theorem locate_eq (h : s.Alike s') (t : Target) : s.locate t = s'.locate t := by
  unfold locate
  rw [h.locator, h.pointer, h.base]

end SchemaNode.Alike

theorem SchemaNode.alike_of {document document' : Json} (h : document.Alike document')
    (locator : Reference) (pointer : List Char) :
    (SchemaNode.of locator document pointer).Alike (.of locator document' pointer) := by
  refine ⟨rfl, rfl, Reference.scope_eq locator h _, ?_⟩
  have hat := h.at? pointer
  change ((document.at? pointer).getD .null).Alike ((document'.at? pointer).getD .null)
  generalize document.at? pointer = x at hat ⊢
  generalize document'.at? pointer = y at hat ⊢
  cases hat with
  | none => exact .refl trivial
  | some hxy => exact hxy

/-- **A reference addresses places that are alike.** -/
theorem Registry.nodeOf_alike {document document' : Json} (h : document.AlikePlaces document')
    (r : Reference) : Option.Rel SchemaNode.Alike (nodeOf r document).toOption
      (nodeOf r document').toOption := by
  unfold nodeOf
  rw [h.locate?_eq]
  cases r.fragment.locate? document' with
  | none => exact .none
  | some pointer => exact .some (SchemaNode.alike_of h.alike _ _)

end JsonSchema
