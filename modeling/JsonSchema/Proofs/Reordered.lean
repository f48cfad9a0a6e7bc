import JsonSchema.Json.Equality
import JsonSchema.Proofs.Subtree
import Mathlib

/-!
# Documents up to the order of members

`Json.Reordered` relates a document to the ones that arise from it by permuting the members of any
of its objects. What is read off a well-formed document by name or by position is read off the
other one, too, again up to the order of members.

* `PermBy`: lists whose entries correspond by a relation, in any order.
* `Json.Alike`: well-formed documents up to the order of members, with the cases that it comes in
  (`Json.Alike.view`) and an induction over both documents (`Json.Alike.rec_parts`).
* `Json.Alike.get?`, `Json.Alike.at?`: members, and places.
* `Json.Alike.sameValue_eq`: the order of members does not matter for equality of values.
-/

namespace JsonSchema

/-! ## Lists in another order -/

/-- The entries of two lists correspond by a relation, up to the order of the second list. -/
def PermBy {α β : Type} (R : α → β → Prop) (xs : List α) (ys : List β) : Prop :=
  ∃ zs, List.Forall₂ R xs zs ∧ zs.Perm ys

namespace PermBy

variable {α β γ δ : Type} {R : α → β → Prop} {S : γ → δ → Prop} {xs xs' : List α}
  {ys ys' : List β}

theorem of_forall₂ (h : List.Forall₂ R xs ys) : PermBy R xs ys :=
  ⟨ys, h, .refl ys⟩

theorem of_eq {xs ys : List α} (h : PermBy Eq xs ys) : xs.Perm ys := by
  obtain ⟨zs, hzs, hp⟩ := h
  rw [List.forall₂_eq_eq_eq] at hzs
  subst hzs
  exact hp

theorem of_perm {xs ys : List α} (h : xs.Perm ys) : PermBy Eq xs ys :=
  ⟨xs, List.forall₂_same.2 fun _ _ => rfl, h⟩

theorem symm (h : PermBy R xs ys) : PermBy (flip R) ys xs := by
  obtain ⟨zs, hzs, hp⟩ := h
  exact List.perm_comp_forall₂ hp.symm hzs.flip

theorem length_eq (h : PermBy R xs ys) : xs.length = ys.length := by
  obtain ⟨zs, hzs, hp⟩ := h
  exact hzs.length_eq.trans hp.length_eq

/-- An entry of the first list corresponds to one of the second. -/
theorem exists_right (h : PermBy R xs ys) {x : α} (hx : x ∈ xs) : ∃ y ∈ ys, R x y := by
  obtain ⟨zs, hzs, hp⟩ := h
  obtain ⟨i, hi, rfl⟩ := List.getElem_of_mem hx
  have hz : i < zs.length := hzs.length_eq ▸ hi
  exact ⟨zs[i], hp.mem_iff.1 (List.getElem_mem hz), hzs.get hi hz⟩

theorem exists_left (h : PermBy R xs ys) {y : β} (hy : y ∈ ys) : ∃ x ∈ xs, R x y :=
  h.symm.exists_right hy

/-- A relation between entries may be weakened where it holds. -/
theorem forall₂_mono {R' : α → β → Prop} (h : List.Forall₂ R xs ys)
    (hR : ∀ x ∈ xs, ∀ y, R x y → R' x y) : List.Forall₂ R' xs ys := by
  induction h with
  | nil => exact .nil
  | @cons x y xs ys hxy _ ih =>
    exact .cons (hR x List.mem_cons_self y hxy) (ih fun x' hx' => hR x' (.tail _ hx'))

theorem forall₂_mapIdx {f : Nat → α → γ} {f' : Nat → β → δ} (h : List.Forall₂ R xs ys)
    (hf : ∀ i x y, R x y → S (f i x) (f' i y)) :
    List.Forall₂ S (xs.mapIdx f) (ys.mapIdx f') := by
  induction h generalizing f f' with
  | nil => exact .nil
  | cons hxy _ ih =>
    rw [List.mapIdx_cons, List.mapIdx_cons]
    exact .cons (hf 0 _ _ hxy) (ih fun i => hf (i + 1))

theorem mono {R' : α → β → Prop} (h : PermBy R xs ys) (hR : ∀ x ∈ xs, ∀ y, R x y → R' x y) :
    PermBy R' xs ys := by
  obtain ⟨zs, hzs, hp⟩ := h
  exact ⟨zs, forall₂_mono hzs hR, hp⟩

/-- If properties agree on corresponding entries, they hold throughout both lists or neither. -/
theorem forall_iff {p : α → Prop} {p' : β → Prop} (h : PermBy R xs ys)
    (hp : ∀ x y, R x y → (p x ↔ p' y)) : (∀ x ∈ xs, p x) ↔ ∀ y ∈ ys, p' y := by
  constructor
  · intro hall y hy
    obtain ⟨x, hx, hxy⟩ := h.exists_left hy
    exact (hp x y hxy).1 (hall x hx)
  · intro hall x hx
    obtain ⟨y, hy, hxy⟩ := h.exists_right hx
    exact (hp x y hxy).2 (hall y hy)

theorem append (h : PermBy R xs ys) (h' : PermBy R xs' ys') :
    PermBy R (xs ++ xs') (ys ++ ys') := by
  obtain ⟨zs, hzs, hp⟩ := h
  obtain ⟨zs', hzs', hp'⟩ := h'
  exact ⟨zs ++ zs', List.rel_append hzs hzs', hp.append hp'⟩

theorem map {f : α → γ} {f' : β → δ} (h : PermBy R xs ys) (hf : ∀ x y, R x y → S (f x) (f' y)) :
    PermBy S (xs.map f) (ys.map f') := by
  obtain ⟨zs, hzs, hp⟩ := h
  refine ⟨zs.map f', ?_, hp.map f'⟩
  rw [List.forall₂_map_left_iff, List.forall₂_map_right_iff]
  exact hzs.imp hf

theorem flatMap {f : α → List γ} {f' : β → List δ} (h : PermBy R xs ys)
    (hf : ∀ x y, R x y → PermBy S (f x) (f' y)) : PermBy S (xs.flatMap f) (ys.flatMap f') := by
  obtain ⟨zs, hzs, hp⟩ := h
  have hpoint : PermBy S (xs.flatMap f) (zs.flatMap f') := by
    clear hp
    induction hzs with
    | nil => exact ⟨[], .nil, .nil⟩
    | cons hxz _ ih => exact (hf _ _ hxz).append ih
  obtain ⟨ws, hws, hw⟩ := hpoint
  exact ⟨ws, hws, hw.trans (hp.flatMap_right f')⟩

theorem filter {p : α → Bool} {p' : β → Bool} (h : PermBy R xs ys)
    (hp : ∀ x y, R x y → p x = p' y) : PermBy R (xs.filter p) (ys.filter p') := by
  obtain ⟨zs, hzs, hperm⟩ := h
  refine ⟨zs.filter p', ?_, hperm.filter p'⟩
  clear hperm
  induction hzs with
  | nil => exact .nil
  | @cons x z xs zs hxz _ ih =>
    rw [List.filter_cons, List.filter_cons, hp x z hxz]
    split
    · exact .cons hxz ih
    · exact ih

/-- Functions that agree on corresponding entries give the same values, in some order. -/
theorem map_perm {f : α → γ} {f' : β → γ} (h : PermBy R xs ys)
    (hf : ∀ x y, R x y → f x = f' y) : (xs.map f).Perm (ys.map f') :=
  (h.map (S := Eq) hf).of_eq

/-- Functions to lists that agree on corresponding entries up to order, joined. -/
theorem flatMap_perm {f : α → List γ} {f' : β → List γ} (h : PermBy R xs ys)
    (hf : ∀ x ∈ xs, ∀ y, R x y → (f x).Perm (f' y)) : (xs.flatMap f).Perm (ys.flatMap f') := by
  have hperm : PermBy (fun x y => (f x).Perm (f' y)) xs ys := h.mono hf
  exact (hperm.flatMap (S := Eq) fun x y hxy => of_perm hxy).of_eq

end PermBy

/-! ## Documents in another order -/

namespace Json

mutual

/-- A document and another one that arises from it by permuting the members of objects. -/
def Reordered : Json → Json → Prop
  | .arr items, w => ∃ items', ReorderedItems items items' ∧ w = .arr items'
  | .obj members, w =>
    ∃ changed members', ReorderedMembers members changed ∧ changed.Perm members' ∧ w = .obj members'
  | v, w => w = v

/-- Lists of values, each of which arises from the other by permuting members. -/
def ReorderedItems : List Json → List Json → Prop
  | [], items' => items' = []
  | item :: rest, items' =>
    ∃ item' rest', Reordered item item' ∧ ReorderedItems rest rest' ∧ items' = item' :: rest'

/-- Lists of members with the same names, and values that arise from each other in this way. -/
def ReorderedMembers : List (String × Json) → List (String × Json) → Prop
  | [], members' => members' = []
  | (name, value) :: rest, members' =>
    ∃ value' rest', Reordered value value' ∧ ReorderedMembers rest rest' ∧
      members' = (name, value') :: rest'

end

/-- Two members have the same name and related values. -/
def Named (R : Json → Json → Prop) (m m' : String × Json) : Prop :=
  m.1 = m'.1 ∧ R m.2 m'.2

variable {v w : Json} {items items' : List Json} {members members' : List (String × Json)}
  {name : String}

theorem reorderedItems_iff : ReorderedItems items items' ↔ List.Forall₂ Reordered items items' := by
  induction items generalizing items' with
  | nil => rw [ReorderedItems, List.forall₂_nil_left_iff]
  | cons item rest ih =>
    simp only [ReorderedItems, ih, List.forall₂_cons_left_iff]

theorem reorderedMembers_iff :
    ReorderedMembers members members' ↔ List.Forall₂ (Named Reordered) members members' := by
  induction members generalizing members' with
  | nil => rw [ReorderedMembers, List.forall₂_nil_left_iff]
  | cons member rest ih =>
    obtain ⟨name, value⟩ := member
    simp only [ReorderedMembers, ih, List.forall₂_cons_left_iff, Named]
    constructor
    · rintro ⟨value', rest', hv, hr, rfl⟩
      exact ⟨(name, value'), rest', ⟨rfl, hv⟩, hr, rfl⟩
    · rintro ⟨⟨_, value'⟩, rest', ⟨rfl, hv⟩, hr, rfl⟩
      exact ⟨value', rest', hv, hr, rfl⟩

theorem reordered_arr_iff :
    Reordered (.arr items) w ↔ ∃ items', List.Forall₂ Reordered items items' ∧ w = .arr items' := by
  simp only [Reordered, reorderedItems_iff]

theorem reordered_obj_iff : Reordered (.obj members) w ↔
    ∃ members', PermBy (Named Reordered) members members' ∧ w = .obj members' := by
  simp only [Reordered, reorderedMembers_iff, PermBy]
  constructor
  · rintro ⟨changed, members', hc, hp, rfl⟩
    exact ⟨members', ⟨changed, hc, hp⟩, rfl⟩
  · rintro ⟨members', ⟨changed, hc, hp⟩, rfl⟩
    exact ⟨changed, members', hc, hp, rfl⟩

/-- Induction over the parts of a document. -/
@[elab_as_elim]
theorem rec_parts {motive : Json → Prop} (null : motive .null) (bool : ∀ b, motive (.bool b))
    (num : ∀ n, motive (.num n)) (str : ∀ s, motive (.str s))
    (arr : ∀ items, (∀ item ∈ items, motive item) → motive (.arr items))
    (obj : ∀ members, (∀ m ∈ members, motive m.2) → motive (.obj members)) (v : Json) :
    motive v := by
  induction hn : v.size using Nat.strongRecOn generalizing v with
  | ind n ih =>
    subst hn
    cases v with
    | null => exact null
    | bool b => exact bool b
    | num n => exact num n
    | str s => exact str s
    | arr items =>
      refine arr items fun item hm => ih _ ?_ item rfl
      rw [size]
      exact Nat.lt_succ_of_le (size_le_sizeItems hm)
    | obj members =>
      refine obj members fun m hm => ih _ ?_ m.2 rfl
      rw [size]
      exact Nat.lt_succ_of_le (size_le_sizeMembers hm)

theorem Reordered.refl (v : Json) : Reordered v v := by
  induction v using rec_parts with
  | arr items ih => exact reordered_arr_iff.2 ⟨items, List.forall₂_same.2 ih, rfl⟩
  | obj members ih =>
    exact reordered_obj_iff.2
      ⟨members, .of_forall₂ (List.forall₂_same.2 fun m hm => ⟨rfl, ih m hm⟩), rfl⟩
  | _ => exact (rfl : _ = _)

theorem Reordered.obj (h : members.Perm members') :
    Reordered (.obj members) (.obj members') :=
  reordered_obj_iff.2
    ⟨members', ⟨members, List.forall₂_same.2 fun m _ => ⟨rfl, .refl m.2⟩, h⟩, rfl⟩

/-! ## Well-formed documents in another order -/

theorem wellFormedItems_iff : WellFormedItems items ↔ ∀ item ∈ items, item.WellFormed := by
  induction items with
  | nil => simp [WellFormedItems]
  | cons item rest ih => simp [WellFormedItems, ih]

theorem wellFormedMembers_iff : WellFormedMembers members ↔ ∀ m ∈ members, m.2.WellFormed := by
  induction members with
  | nil => simp [WellFormedMembers]
  | cons member rest ih => simp [WellFormedMembers, ih]

theorem map_fst_perm {R : Json → Json → Prop} (h : PermBy (Named R) members members') :
    (members.map Prod.fst).Perm (members'.map Prod.fst) :=
  h.map_perm fun _ _ hm => hm.1

theorem Reordered.wellFormed (h : Reordered v w) (hv : v.WellFormed) : w.WellFormed := by
  induction v using rec_parts generalizing w with
  | arr items ih =>
    obtain ⟨items', hi, rfl⟩ := reordered_arr_iff.1 h
    have hwf : ∀ item ∈ items, item.WellFormed := wellFormedItems_iff.1 hv
    refine wellFormedItems_iff.2 fun item' hm' => ?_
    obtain ⟨item, hm, hr⟩ := (PermBy.of_forall₂ hi).exists_left hm'
    exact ih item hm hr (hwf item hm)
  | obj members ih =>
    obtain ⟨members', hp, rfl⟩ := reordered_obj_iff.1 h
    have hwf : ∀ m ∈ members, m.2.WellFormed := wellFormedMembers_iff.1 hv.2
    refine ⟨(map_fst_perm hp).nodup_iff.1 hv.1, wellFormedMembers_iff.2 fun m' hm' => ?_⟩
    obtain ⟨m, hm, -, hr⟩ := hp.exists_left hm'
    exact ih m hm hr (hwf m hm)
  | _ =>
    obtain rfl : w = _ := h
    trivial

/-- Two well-formed documents, one of which arises from the other by permuting members. -/
structure Alike (v w : Json) : Prop where
  reordered : Reordered v w
  wellFormed : v.WellFormed
  wellFormed' : w.WellFormed

theorem Reordered.alike (h : Reordered v w) (hv : v.WellFormed) : Alike v w :=
  ⟨h, hv, h.wellFormed hv⟩

theorem Alike.refl (h : v.WellFormed) : Alike v v :=
  (Reordered.refl v).alike h

/-- The cases in which two documents are alike. -/
inductive Alike.View : Json → Json → Prop
  | null : View .null .null
  | bool (b : Bool) : View (.bool b) (.bool b)
  | num (n : Number) : View (.num n) (.num n)
  | str (s : String) : View (.str s) (.str s)
  | arr {items items' : List Json} (h : List.Forall₂ Alike items items') :
    View (.arr items) (.arr items')
  | obj {members members' : List (String × Json)} (hn : (members.map Prod.fst).Nodup)
      (hn' : (members'.map Prod.fst).Nodup) (h : PermBy (Named Alike) members members') :
    View (.obj members) (.obj members')

namespace Alike

theorem view (h : Alike v w) : View v w := by
  obtain ⟨hr, hv, hw⟩ := h
  cases v with
  | null => obtain rfl : w = _ := hr; exact .null
  | bool b => obtain rfl : w = _ := hr; exact .bool b
  | num n => obtain rfl : w = _ := hr; exact .num n
  | str s => obtain rfl : w = _ := hr; exact .str s
  | arr items =>
    obtain ⟨items', hi, rfl⟩ := reordered_arr_iff.1 hr
    have hwf : ∀ item ∈ items, item.WellFormed := wellFormedItems_iff.1 hv
    exact .arr (PermBy.forall₂_mono hi fun item hm item' h => h.alike (hwf item hm))
  | obj members =>
    obtain ⟨members', hp, rfl⟩ := reordered_obj_iff.1 hr
    have hwf : ∀ m ∈ members, m.2.WellFormed := wellFormedMembers_iff.1 hv.2
    exact .obj hv.1 hw.1 (hp.mono fun m hm m' h => ⟨h.1, h.2.alike (hwf m hm)⟩)

/-- Induction over the parts of two documents that are alike. -/
@[elab_as_elim]
theorem rec_parts {motive : ∀ v w, Alike v w → Prop} (null : ∀ h, motive .null .null h)
    (bool : ∀ b h, motive (.bool b) (.bool b) h) (num : ∀ n h, motive (.num n) (.num n) h)
    (str : ∀ s h, motive (.str s) (.str s) h)
    (arr : ∀ items items' h, List.Forall₂ (fun v w => ∃ h, motive v w h) items items' →
      motive (.arr items) (.arr items') h)
    (obj : ∀ members members' h, (members.map Prod.fst).Nodup → (members'.map Prod.fst).Nodup →
      PermBy (Named fun v w => ∃ h, motive v w h) members members' →
      motive (.obj members) (.obj members') h) (h : Alike v w) : motive v w h := by
  induction v using Json.rec_parts generalizing w with
  | null => cases h.view; exact null h
  | bool b => cases h.view; exact bool b h
  | num n => cases h.view; exact num n h
  | str s => cases h.view; exact str s h
  | arr items ih =>
    cases h.view with
    | arr hi => exact arr _ _ h (PermBy.forall₂_mono hi fun v hm w h => ⟨h, ih v hm h⟩)
  | obj members ih =>
    cases h.view with
    | obj hn hn' hp =>
      exact obj _ _ h hn hn' (hp.mono fun m hm m' h => ⟨h.1, h.2, ih m hm h.2⟩)

theorem symm (h : Alike v w) : Alike w v := by
  refine ⟨?_, h.wellFormed', h.wellFormed⟩
  induction h using rec_parts with
  | arr items items' _ hi =>
    exact reordered_arr_iff.2 ⟨items, hi.flip.imp fun _ _ ⟨_, h⟩ => h, rfl⟩
  | obj members members' _ _ _ hp =>
    exact reordered_obj_iff.2
      ⟨members, hp.symm.mono fun _ _ _ ⟨hname, _, h⟩ => ⟨hname.symm, h⟩, rfl⟩
  | _ => exact Reordered.refl _

/-! ### What does not show the order -/

theorem type_eq (h : Alike v w) : NodeType.of v = NodeType.of w := by
  cases h.view <;> rfl

theorem isObject_eq (h : Alike v w) : v.isObject = w.isObject := by
  cases h.view <;> rfl

theorem isString_eq (h : Alike v w) : v.isString = w.isString := by
  cases h.view <;> rfl

theorem asString?_eq (h : Alike v w) : v.asString? = w.asString? := by
  cases h.view <;> rfl

theorem asBool?_eq (h : Alike v w) : v.asBool? = w.asBool? := by
  cases h.view <;> rfl

theorem asUnsigned?_eq (h : Alike v w) : v.asUnsigned? = w.asUnsigned? := by
  cases h.view <;> rfl

theorem members_alike (h : Alike v w) : PermBy (Named Alike) v.members w.members := by
  cases h.view with
  | obj _ _ hp => exact hp
  | _ => exact ⟨[], .nil, .nil⟩

end Alike

/-- The parts of documents that are alike are reached by the same steps. -/
theorem Alike.parts (h : Alike v w) :
    PermBy (fun p q => p.1 = q.1 ∧ Alike p.2 q.2) (Instance.parts v) (Instance.parts w) := by
  cases h.view with
  | arr hi => exact .of_forall₂ (PermBy.forall₂_mapIdx hi fun i v w h => ⟨rfl, h⟩)
  | obj _ _ hp => exact hp.map fun m m' h => ⟨congrArg PathStep.field h.1, h.2⟩
  | _ => exact ⟨[], .nil, .nil⟩

/-! ## Members and places -/

theorem lookup_eq_some_iff (h : (members.map Prod.fst).Nodup) :
    lookup name members = some v ↔ (name, v) ∈ members :=
  ⟨mem_of_lookup, lookup_of_mem h⟩

theorem lookup_alike (hn : (members.map Prod.fst).Nodup) (hn' : (members'.map Prod.fst).Nodup)
    (h : PermBy (Named Alike) members members') (name : String) :
    Option.Rel Alike (lookup name members) (lookup name members') := by
  cases hl : lookup name members with
  | some v =>
    obtain ⟨⟨_, w⟩, hm, rfl, hw⟩ := h.exists_right (mem_of_lookup hl)
    rw [lookup_of_mem hn' hm]
    exact .some hw
  | none =>
    cases hl' : lookup name members' with
    | none => exact .none
    | some w =>
      obtain ⟨⟨_, v⟩, hm, rfl, -⟩ := h.exists_left (mem_of_lookup hl')
      rw [lookup_of_mem hn hm] at hl
      cases hl

namespace Alike

theorem get? (h : Alike v w) (name : String) : Option.Rel Alike (v.get? name) (w.get? name) := by
  cases h.view with
  | obj hn hn' hp => exact lookup_alike hn hn' hp name
  | _ => exact .none

theorem getElem? (h : List.Forall₂ Alike items items') (i : Nat) :
    Option.Rel Alike items[i]? items'[i]? := by
  induction h generalizing i with
  | nil => exact .none
  | cons hv _ ih =>
    cases i with
    | zero => exact .some hv
    | succ i => exact ih i

theorem below? (h : Alike v w) (token : List Char) :
    Option.Rel Alike (v.below? token) (w.below? token) := by
  cases h.view with
  | obj hn hn' hp => exact lookup_alike hn hn' hp _
  | arr hi =>
    unfold Json.below?
    cases Pointer.index? token with
    | none => exact .none
    | some i => exact getElem? hi i
  | _ => exact .none

theorem walk? (h : Alike v w) (tokens : List (List Char)) :
    Option.Rel Alike (v.walk? tokens) (w.walk? tokens) := by
  induction tokens generalizing v w with
  | nil => exact .some h
  | cons token rest ih =>
    have hb := h.below? token
    unfold Json.walk?
    generalize v.below? token = x at hb ⊢
    generalize w.below? token = y at hb ⊢
    cases hb with
    | none => exact .none
    | some hxy => exact ih hxy

theorem at? (h : Alike v w) (pointer : List Char) :
    Option.Rel Alike (v.at? pointer) (w.at? pointer) := by
  unfold Json.at?
  cases Pointer.tokens? pointer with
  | none => exact .none
  | some tokens => exact h.walk? tokens

end Alike

/-- Values that are alike, among members that show values that are alike under each name. -/
structure Around (members members' : List (String × Json)) (v w : Json) : Prop where
  value : v.Alike w
  lookup : ∀ name, Option.Rel Alike (lookup name members) (Json.lookup name members')

theorem isSome_eq {x y : Option Json} (h : Option.Rel Alike x y) : x.isSome = y.isSome := by
  cases h <;> rfl

theorem isNone_eq {x y : Option Json} (h : Option.Rel Alike x y) : x.isNone = y.isNone := by
  cases h <;> rfl

/-- What is read off values in the same way is the same for optional values. -/
theorem bind_eq {α : Type} {f : Json → Option α} (hf : ∀ {v w}, Alike v w → f v = f w)
    {x y : Option Json} (h : Option.Rel Alike x y) : x.bind f = y.bind f := by
  cases h with
  | none => rfl
  | some hxy => exact hf hxy

/-! ## Equality of values -/

theorem sameMembers_iff : sameMembers members members' ↔
    ∀ m ∈ members, ∃ w, lookup m.1 members' = some w ∧ sameValue m.2 w := by
  induction members with
  | nil => simp [sameMembers]
  | cons member rest ih =>
    obtain ⟨name, v⟩ := member
    rw [sameMembers, Bool.and_eq_true, ih, List.forall_mem_cons]
    refine and_congr_left fun _ => ?_
    cases lookup name members' <;> simp

/-- **The order of members does not matter for equality.** -/
theorem Alike.sameValue_eq {v' w' : Json} (h : Alike v v') (h' : Alike w w') :
    sameValue v w = sameValue v' w' := by
  induction h using rec_parts generalizing w w' with
  | arr items items' h hi =>
    cases h'.view with
    | @arr others others' hj =>
      rw [sameValue, sameValue]
      clear h h'
      induction hi generalizing others others' with
      | nil => cases hj <;> rfl
      | cons hx _ ih =>
        cases hj with
        | nil => rfl
        | cons hy hj =>
          obtain ⟨_, hx⟩ := hx
          rw [sameItems, sameItems, hx hy, ih hj]
    | _ => rfl
  | obj members members' _ _ _ hp =>
    cases h'.view with
    | @obj others others' hn hn' hj =>
      rw [Bool.eq_iff_iff, sameValue, sameValue, Bool.and_eq_true, Bool.and_eq_true,
        sameMembers_iff, sameMembers_iff, hp.length_eq, hj.length_eq]
      refine and_congr_right fun _ => hp.forall_iff ?_
      rintro ⟨name, x⟩ ⟨_, x'⟩ ⟨rfl, _, hx⟩
      have hl := lookup_alike hn hn' hj name
      simp only
      generalize lookup name others = o at hl ⊢
      generalize lookup name others' = o' at hl ⊢
      cases hl with
      | none => simp
      | some hy => simp [hx hy]
    | _ => rfl
  | _ => cases h'.view <;> rfl

/-- Repeated items are found at the same positions. -/
theorem firstRepeat?_eq (h : List.Forall₂ Alike items items') :
    firstRepeat? items = firstRepeat? items' := by
  induction h with
  | nil => rfl
  | @cons v w rest rest' hv hrest ih =>
    have hfind : rest.findIdx? (sameValue v) = rest'.findIdx? (sameValue w) := by
      clear ih
      induction hrest with
      | nil => rfl
      | cons hx _ ih => rw [List.findIdx?_cons, List.findIdx?_cons, hv.sameValue_eq hx, ih]
    rw [firstRepeat?, firstRepeat?, hfind, ih]

end Json

end JsonSchema
