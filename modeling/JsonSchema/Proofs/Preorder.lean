import JsonSchema.Proofs.Nodes
import JsonSchema.Proofs.Reordered.Schema
import Mathlib

/-!
# The nodes of a document in pre-order

A document may be read as an instance: its nodes come one after the other, a value before its parts.
In a document that repeats no name, the pointer of a node leads to the value of the node, and no two
nodes have one pointer. So an anchor, which is looked for node by node, is found at a place that its
pointer tells from all others.

* `Instance.exists_walk?_of_mem_subtree`: names lead to each node at or below a node.
* `Instance.nodup_pointers`: pointers tell nodes apart.
* `Fragment.resolves_first_anchor`: which node an anchor leads to, and when there is none.
-/

namespace JsonSchema

/-- Names that lead from one place to one place are the same. -/
theorem Pointer.foldl_child_inj {pointer : List Char} {tokens tokens' : List (List Char)}
    (h : tokens.foldl child pointer = tokens'.foldl child pointer) : tokens = tokens' := by
  have happend (tokens : List (List Char)) :
      tokens.foldl child pointer = pointer ++ tokens.foldl child [] := by
    induction tokens using List.reverseRecOn with
    | nil => rw [List.foldl_nil, List.foldl_nil, List.append_nil]
    | append_singleton front token ih =>
      rw [List.foldl_concat, List.foldl_concat, ih, child, child, List.append_assoc]
  rw [happend tokens, happend tokens'] at h
  have hread := congrArg tokens? (List.append_cancel_left h)
  rw [tokens?_foldl_child (rfl : tokens? [] = some []),
    tokens?_foldl_child (rfl : tokens? [] = some [])] at hread
  exact Option.some.inj hread

namespace Instance

variable {n m : Instance} {d v w : Json} {step : PathStep}

/-! ## Pointers -/

theorem child_pointer (n : Instance) (step : PathStep) (w : Json) :
    (n.child step w).pointer = Pointer.child n.pointer step.text := by
  cases step with
  | index i => rw [child, Pointer.child, PathStep.text, Pointer.escape_toDigits, PathStep.token]
  | field name => rfl

/-- The text of a step leads to the part. -/
theorem below?_of_mem_parts (hv : v.WellFormed) (h : (step, w) ∈ parts v) :
    v.below? step.text = some w := by
  cases v with
  | obj members =>
    obtain ⟨⟨name, value⟩, hm, he⟩ := List.mem_map.1 h
    cases he
    exact Json.below?_toList _ _ (hv.get?_of_mem hm)
  | arr items =>
    obtain ⟨i, hi, he⟩ := List.mem_mapIdx.1 h
    cases he
    exact Json.below?_toDigits hi
  | _ => cases h

/-- Different parts are reached by steps with different texts. -/
theorem nodup_texts_parts (hv : v.WellFormed) : ((parts v).map fun p => p.1.text).Nodup := by
  cases v with
  | obj members =>
    have htexts : (parts (.obj members)).map (fun p => p.1.text) =
        (members.map Prod.fst).map String.toList := by
      simp only [parts, List.map_map]
      rfl
    rw [htexts]
    exact hv.1.map fun _ _ => String.toList_inj.1
  | arr items =>
    rw [List.nodup_iff_injective_getElem]
    intro i j hij
    simp only [parts, List.getElem_map, List.getElem_mapIdx, PathStep.text] at hij
    have hread := congrArg Pointer.index? hij
    rw [Pointer.index?_toDigits, Pointer.index?_toDigits] at hread
    exact Fin.ext (Option.some.inj hread)
  | _ => exact List.nodup_nil

/-- **Names lead to every node at or below a node**, and they spell its pointer. -/
theorem exists_walk?_of_mem_subtree (hn : n.value.WellFormed) (hm : m ∈ n.subtree) :
    ∃ tokens, n.value.walk? tokens = some m.value ∧
      m.pointer = tokens.foldl Pointer.child n.pointer := by
  induction hm using subtree_induction with
  | here => exact ⟨[], rfl, rfl⟩
  | above hc _ ih =>
    obtain ⟨⟨step, w⟩, hpart, rfl⟩ := List.mem_map.1 hc
    have hbelow := below?_of_mem_parts hn hpart
    obtain ⟨tokens, hwalk, hpointer⟩ := ih (hn.below? hbelow)
    refine ⟨step.text :: tokens, ?_, ?_⟩
    · rw [Json.walk?, hbelow]
      exact hwalk
    · rw [hpointer, child_pointer, List.foldl_cons]

/-- The pointer of a node of a document leads to the value of the node. -/
theorem at?_of_mem_subtree (hd : d.WellFormed) (hm : m ∈ (root d).subtree) :
    d.at? m.pointer = some m.value := by
  obtain ⟨tokens, hwalk, hpointer⟩ := exists_walk?_of_mem_subtree hd hm
  rw [hpointer]
  exact (Json.at?_foldl_child (Json.at?_nil d) tokens).trans hwalk

/-- **No two nodes at or below a node have one pointer.** -/
theorem nodup_pointers (hn : n.value.WellFormed) : (n.subtree.map (·.pointer)).Nodup := by
  induction hsize : n.value.size using Nat.strongRecOn generalizing n with
  | ind size ih =>
    -- The pointer of a node below starts with the step to the child that it lies below.
    have hpointer {p : PathStep × Json} (hp : p ∈ parts n.value) {pointer : List Char}
        (h : pointer ∈ (n.child p.1 p.2).subtree.map (·.pointer)) :
        ∃ tokens, pointer = (p.1.text :: tokens).foldl Pointer.child n.pointer := by
      obtain ⟨m, hm, rfl⟩ := List.mem_map.1 h
      have hvalue : p.2.WellFormed := hn.below? (below?_of_mem_parts hn hp)
      obtain ⟨tokens, -, hpointer⟩ := exists_walk?_of_mem_subtree (n := n.child p.1 p.2) hvalue hm
      exact ⟨tokens, by rw [hpointer, child_pointer, List.foldl_cons]⟩
    rw [subtree_eq, List.map_cons, List.map_flatMap, children, List.flatMap_map, List.nodup_cons]
    refine ⟨fun h => ?_, List.nodup_flatMap.2 ⟨fun p hp => ?_, ?_⟩⟩
    · obtain ⟨p, hp, h⟩ := List.mem_flatMap.1 h
      obtain ⟨tokens, he⟩ := hpointer hp h
      have hnil : [] = p.1.text :: tokens := Pointer.foldl_child_inj he
      exact List.cons_ne_nil _ _ hnil.symm
    · have hvalue : p.2.WellFormed := hn.below? (below?_of_mem_parts hn hp)
      exact ih p.2.size (hsize ▸ size_lt_of_mem_parts hp) hvalue rfl
    · have htexts := List.pairwise_map.1 (nodup_texts_parts hn)
      refine htexts.imp_of_mem fun {p q} hp hq hne => List.disjoint_left.2 fun pointer hl hr => ?_
      obtain ⟨tokens, he⟩ := hpointer hp hl
      obtain ⟨tokens', he'⟩ := hpointer hq hr
      exact hne (List.cons.inj (Pointer.foldl_child_inj (he.symm.trans he'))).1

end Instance

/-! ## Anchors -/

theorem Json.hasId_iff {id : String} {v : Json} : v.hasId id ↔ v.get? "id" = some (.str id) := by
  unfold hasId
  cases v.get? "id" with
  | none => simp
  | some w => cases w <;> simp [asString?]

/-- The first node at or below another one whose value has a property. -/
def Instance.IsFirst (n : Instance) (P : Json → Prop) (m : Instance) : Prop :=
  ∃ before after, n.subtree = before ++ m :: after ∧ P m.value ∧ ∀ x ∈ before, ¬ P x.value

namespace Fragment

variable {d : Json}

/-- Where an anchor leads, as a search through the nodes. -/
theorem locate?_anchor (d : Json) (name : List Char) :
    (anchor name).locate? d = ((Instance.root d).subtree.find? fun m =>
      m.value.hasId (String.ofList ('#' :: name))).map (·.pointer) := by
  have hsearch := Json.findAnchor?_eq (String.ofList ('#' :: name)) (.root d)
  rw [locate?]
  exact hsearch

/-- What an anchor resolves to, as a search through the nodes. -/
theorem resolve?_anchor (hd : d.WellFormed) (name : List Char) :
    (anchor name).resolve? d =
      ((Instance.root d).subtree.find? fun m => m.value.hasId (String.ofList ('#' :: name))).map
        fun m => (m.pointer, m.value) := by
  rw [resolve?, locate?_anchor]
  cases hfind : (Instance.root d).subtree.find? fun m =>
      m.value.hasId (String.ofList ('#' :: name)) with
  | none => rfl
  | some m =>
    have hat := Instance.at?_of_mem_subtree hd (List.mem_of_find?_eq_some hfind)
    rw [Option.map_some, Option.bind_some, hat]
    rfl

/-- **An anchor leads to the first object that has it as its `id`**, in pre-order: members in the
order of the document, items by their index. The pointer that is given leads to this object, and is
the pointer of no other node. Nothing is given exactly if no value at any depth has such an
`id`. -/
theorem resolves_first_anchor (hd : d.WellFormed) (name : List Char) :
    (∀ path v, (anchor name).resolve? d = some (path, v) ↔
      ∃ m, (Instance.root d).IsFirst (·.get? "id" = some (.str (String.ofList ('#' :: name)))) m ∧
        m.pointer = path ∧ m.value = v ∧ d.at? path = some v ∧
        ∀ n ∈ (Instance.root d).subtree, n.pointer = path → n = m) ∧
    ((anchor name).resolve? d = none ↔ ∀ pointer v, d.at? pointer = some v →
      v.get? "id" ≠ some (.str (String.ofList ('#' :: name)))) := by
  rw [resolve?_anchor hd]
  refine ⟨fun path v => ⟨fun h => ?_, ?_⟩, ⟨fun h pointer v hat hid => ?_, fun h => ?_⟩⟩
  · obtain ⟨m, hfind, he⟩ := Option.map_eq_some_iff.1 h
    cases he
    obtain ⟨hid, before, after, hnodes, hbefore⟩ := List.find?_eq_some_iff_append.1 hfind
    have hm := List.mem_of_find?_eq_some hfind
    refine ⟨m, ⟨before, after, hnodes, Json.hasId_iff.1 hid, fun x hx hx' => ?_⟩, rfl, rfl,
      Instance.at?_of_mem_subtree hd hm, fun n hn he => ?_⟩
    · have := hbefore x hx
      rw [Json.hasId_iff.2 hx'] at this
      cases this
    · exact List.inj_on_of_nodup_map (Instance.nodup_pointers (n := .root d) hd) hn hm he
  · rintro ⟨m, ⟨before, after, hnodes, hid, hbefore⟩, rfl, rfl, -, -⟩
    refine Option.map_eq_some_iff.2 ⟨m, List.find?_eq_some_iff_append.2
      ⟨Json.hasId_iff.2 hid, before, after, hnodes, fun x hx => ?_⟩, rfl⟩
    rw [Bool.not_eq_true']
    exact Bool.eq_false_iff.2 fun hx' => hbefore x hx (Json.hasId_iff.1 hx')
  · obtain ⟨tokens, -, hwalk⟩ := Option.bind_eq_some_iff.1 hat
    obtain ⟨m, hm, rfl, -⟩ := Instance.exists_mem_subtree_of_walk? (n := .root d) hwalk
    exact List.find?_eq_none.1 (Option.map_eq_none_iff.1 h) m hm (Json.hasId_iff.2 hid)
  · refine Option.map_eq_none_iff.2 (List.find?_eq_none.2 fun m hm hid => ?_)
    exact h m.pointer m.value (Instance.at?_of_mem_subtree hd hm) (Json.hasId_iff.1 hid)

/-- A schema with an anchor, and another one with the same anchor within it. -/
def nestedAnchors : Json :=
  .obj [("id", .str "#x"), ("not", .obj [("id", .str "#x")])]

/-- A document that has them below a name with a slash. -/
def anchoredList : Json :=
  .obj [("id", .bool true), ("a/b", .arr [.str "#x", nestedAnchors]), ("c", nestedAnchors)]

theorem resolves_first_anchor_nested : anchoredList.WellFormed ∧
    (anchor "x".toList).resolve? anchoredList = some ("/a~1b/1".toList, nestedAnchors) ∧
    (∃ m, (Instance.root anchoredList).IsFirst (·.get? "id" = some (.str "#x")) m ∧
      m.pointer = "/a~1b/1".toList ∧ m.value = nestedAnchors ∧
      anchoredList.at? "/a~1b/1".toList = some nestedAnchors ∧
      ∀ n ∈ (Instance.root anchoredList).subtree, n.pointer = "/a~1b/1".toList → n = m) ∧
    ∀ pointer v, anchoredList.at? pointer = some v → v.get? "id" ≠ some (.str "#y") := by
  have hw : anchoredList.WellFormed := by
    simp [anchoredList, nestedAnchors, Json.WellFormed, Json.WellFormedMembers,
      Json.WellFormedItems]
  have hfound : (anchor "x".toList).resolve? anchoredList =
      some ("/a~1b/1".toList, nestedAnchors) := by
    cbv
  have hnone : (anchor "y".toList).resolve? anchoredList = none := by
    cbv
  exact ⟨hw, hfound, ((resolves_first_anchor hw "x".toList).1 _ _).1 hfound,
    (resolves_first_anchor hw "y".toList).2.1 hnone⟩

end Fragment

end JsonSchema
