import JsonSchema.Instance
import JsonSchema.Proofs.Places
import JsonSchema.Proofs.Uri
import Mathlib

/-!
# The nodes at and below a node

* `Instance.subtree_induction`: induction up from one of them.
* `Instance.mem_subtree_of_mem_children`: with a node, its children are among them.
* `Instance.length_subtree`: there is one for each part of the value.
* `Instance.exists_mem_subtree_of_walk?`: names lead to one of them, and its pointer spells them.
-/

namespace JsonSchema

/-! ## Indices -/

namespace Pointer

theorem digit?_eq_some {c : Char} {d : Nat} (h : CharClass.digit? c = some d) :
    d < 10 ∧ c = d.digitChar := by
  have hall : (CharClass.digit? c).all fun d => d < 10 ∧ c = d.digitChar := by
    by_cases hascii : c.toNat < 0x80
    · refine Uri.of_isAscii hascii ?_
      decide
    · have hdigit : CharClass.isAsciiDigit c = false := by
        by_contra hdigit
        simp only [CharClass.isAsciiDigit, Bool.not_eq_false, Bool.and_eq_true,
          decide_eq_true_eq, Char.le_def, UInt32.le_iff_toNat_le] at hdigit
        exact hascii (Nat.lt_of_le_of_lt hdigit.2 (by decide))
      rw [CharClass.digit?, hdigit]
      rfl
  rw [h] at hall
  simpa using hall

/-- Digits without a leading zero are the digits of the number that they write. -/
theorem eq_toDigits_of_foldl {cs : List Char} {n : Nat}
    (h : cs.foldl (fun acc c => do return (← acc) * 10 + (← CharClass.digit? c)) (some 0) = some n)
    (hne : cs ≠ []) (hlead : cs.head? = some '0' → cs.length = 1) : cs = Nat.toDigits 10 n := by
  induction cs using List.reverseRecOn generalizing n with
  | nil => exact absurd rfl hne
  | append_singleton front c ih =>
    rw [List.foldl_append] at h
    obtain ⟨m, hm, hlast⟩ := Option.bind_eq_some_iff.1 h
    obtain ⟨d, hd, hn⟩ := Option.bind_eq_some_iff.1 hlast
    obtain rfl : m * 10 + d = n := Option.some.inj hn
    obtain ⟨hlt, rfl⟩ := digit?_eq_some hd
    rw [Nat.toDigits_eq_if (by decide)]
    rcases eq_or_ne front [] with rfl | hfront
    · obtain rfl : 0 = m := Option.some.inj hm
      rw [if_pos (by omega), Nat.zero_mul, Nat.zero_add]
      rfl
    · have hzero : front.head? ≠ some '0' := by
        intro hzero
        have hlength := hlead (by rw [List.head?_append_of_ne_nil _ hfront, hzero])
        have := List.length_pos_of_ne_nil hfront
        rw [List.length_append, List.length_singleton] at hlength
        omega
      have hdigits := ih hm hfront fun hhead => absurd hhead hzero
      have hpos : m ≠ 0 := by
        rintro rfl
        exact hzero (by rw [hdigits]; rfl)
      rw [if_neg (by omega), show (m * 10 + d) / 10 = m by omega,
        show (m * 10 + d) % 10 = d by omega, ← hdigits]

/-- An index is written in one way only. -/
theorem eq_toDigits_of_index? {token : List Char} {i : Nat} (h : index? token = some i) :
    token = Nat.toDigits 10 i := by
  unfold index? at h
  split at h
  · cases h
  · rename_i hlead
    rcases eq_or_ne token [] with rfl | hne
    · cases h
    · rw [CharClass.decimal?] at h
      · refine eq_toDigits_of_foldl h hne fun hhead => ?_
        by_contra hlength
        exact hlead ⟨hhead, hlength⟩
      · exact hne

theorem escape_toDigits (i : Nat) : escape (Nat.toDigits 10 i) = Nat.toDigits 10 i := by
  have hkept : ∀ c ∈ Nat.toDigits 10 i,
      (if c = '~' then ['~', '0'] else if c = '/' then ['~', '1'] else [c]) = [c] := by
    intro c hc
    have hdigit := isAsciiDigit_of_mem_toDigits hc
    rw [if_neg, if_neg]
    · rintro rfl
      cases hdigit
    · rintro rfl
      cases hdigit
  rw [escape, List.flatMap_congr hkept, List.flatMap_singleton']

end Pointer

/-! ## Nodes -/

/-- What a name leads to is a part, and the name is the token of its step. -/
theorem Json.exists_part_of_below? {v w : Json} {token : List Char} (h : v.below? token = some w) :
    ∃ step, (step, w) ∈ Instance.parts v ∧ step.token = Pointer.escape token := by
  cases v with
  | obj members =>
    refine ⟨.field (String.ofList token), List.mem_map.2 ⟨_, mem_of_lookup h, rfl⟩, ?_⟩
    rw [PathStep.token, String.toList_ofList]
  | arr items =>
    obtain ⟨i, hi, hitem⟩ := Option.bind_eq_some_iff.1 h
    obtain ⟨hlt, rfl⟩ := List.getElem?_eq_some_iff.1 hitem
    refine ⟨.index i, List.mem_mapIdx.2 ⟨i, hlt, rfl⟩, ?_⟩
    rw [Pointer.eq_toDigits_of_index? hi, Pointer.escape_toDigits, PathStep.token]
  | _ => cases h

namespace Instance

variable {n m c : Instance} {w : Json} {tokens : List (List Char)}

theorem mem_subtree_iff : m ∈ n.subtree ↔ m = n ∨ ∃ c ∈ n.children, m ∈ c.subtree := by
  rw [subtree, List.mem_cons]
  simp only [List.mem_flatMap, List.mem_attach, true_and, Subtype.exists, exists_prop]

theorem mem_subtree_self (n : Instance) : n ∈ n.subtree :=
  mem_subtree_iff.2 (.inl rfl)

/-- Induction along the nodes above a node, the node itself first. -/
@[elab_as_elim]
theorem subtree_induction {motive : (n : Instance) → m ∈ n.subtree → Prop}
    (here : motive m (mem_subtree_self m))
    (above : ∀ {n c : Instance} (hc : c ∈ n.children) (hm : m ∈ c.subtree), motive c hm →
      motive n (mem_subtree_iff.2 (.inr ⟨c, hc, hm⟩)))
    (hm : m ∈ n.subtree) : motive n hm := by
  induction hsize : n.value.size using Nat.strongRecOn generalizing n with
  | ind size ih =>
    rcases mem_subtree_iff.1 hm with rfl | ⟨c, hc, hbelow⟩
    · exact here
    · exact above hc hbelow (ih c.value.size (hsize ▸ size_lt_of_mem_children hc) hbelow rfl)

/-- The children of the nodes below a node lie below it, too. -/
theorem mem_subtree_of_mem_children (hm : m ∈ n.subtree) (hc : c ∈ m.children) :
    c ∈ n.subtree := by
  induction hm using subtree_induction with
  | here => exact mem_subtree_iff.2 (.inr ⟨c, hc, mem_subtree_self c⟩)
  | above hchild _ ih => exact mem_subtree_iff.2 (.inr ⟨_, hchild, ih⟩)

theorem sum_size_parts (v : Json) : ((parts v).map fun p => p.2.size).sum + 1 = v.size := by
  have hitems (items : List Json) : (items.map Json.size).sum = Json.sizeItems items := by
    induction items with
    | nil => rfl
    | cons item rest ih => rw [List.map_cons, List.sum_cons, ih, Json.sizeItems]
  have hmembers (members : List (String × Json)) :
      (members.map fun m => m.2.size).sum = Json.sizeMembers members := by
    induction members with
    | nil => rfl
    | cons member rest ih => rw [List.map_cons, List.sum_cons, ih, Json.sizeMembers]
  cases v with
  | arr items =>
    have hsizes : (parts (.arr items)).map (fun p => p.2.size) = items.map Json.size := by
      apply List.ext_getElem <;> simp [parts]
    rw [hsizes, hitems, Json.size]
  | obj members =>
    rw [Json.size, ← hmembers, parts, List.map_map]
    rfl
  | _ => rfl

/-- There are as many nodes as the value has parts. -/
theorem length_subtree (n : Instance) : n.subtree.length = n.value.size := by
  induction hn : n.value.size using Nat.strongRecOn generalizing n with
  | ind size ih =>
    have hchildren : n.children.map (fun c => c.subtree.length) =
        n.children.map fun c => c.value.size :=
      List.map_congr_left fun c hc => ih _ (hn ▸ size_lt_of_mem_children hc) c rfl
    have hsum : (n.children.map fun c => c.value.size).sum + 1 = n.value.size := by
      rw [← sum_size_parts n.value, children, List.map_map]
      rfl
    rw [subtree, List.length_cons, List.length_flatMap]
    simp only [List.map_attach_eq_pmap, List.pmap_eq_map]
    rw [hchildren, hsum, hn]

/-- **Names lead from a node to a node below it**, and its pointer spells them. -/
theorem exists_mem_subtree_of_walk? (h : n.value.walk? tokens = some w) :
    ∃ m ∈ n.subtree, m.value = w ∧ m.pointer = tokens.foldl Pointer.child n.pointer := by
  induction tokens generalizing n with
  | nil => exact ⟨n, mem_subtree_self n, Option.some.inj h, rfl⟩
  | cons token rest ih =>
    obtain ⟨v, hv, hwalk⟩ := Option.bind_eq_some_iff.1 h
    obtain ⟨step, hpart, htoken⟩ := Json.exists_part_of_below? hv
    have hchild : n.child step v ∈ n.children := List.mem_map.2 ⟨_, hpart, rfl⟩
    obtain ⟨m, hm, hvalue, hpointer⟩ := ih (n := n.child step v) hwalk
    refine ⟨m, mem_subtree_iff.2 (.inr ⟨_, hchild, hm⟩), hvalue, ?_⟩
    rw [hpointer, List.foldl_cons, Pointer.child, ← htoken]
    rfl

end Instance

end JsonSchema
