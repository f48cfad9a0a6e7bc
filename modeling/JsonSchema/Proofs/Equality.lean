import JsonSchema.Proofs.Nodes
import JsonSchema.Proofs.Number
import JsonSchema.Proofs.Reordered
import Mathlib

/-!
# Equality of values as a relation

Equality of values is reflexive, symmetric, and blind to the order of members. It is transitive
through a value unless a double stands in the value that is shared: two different integers count as
equal to it, since both are rounded to it. Such a double is of size `2 ^ 53` at least.

* `Number.IsShared`: doubles that different integers count as equal to.
* `Number.sameValue_trans`: numbers that are not shared pass equality on.
* `Json.same_iff_view`: equal values by the cases that they come in.
* `Json.Same.refl`, `Json.Same.symm`, `Json.Same.trans`: the laws of an equivalence.
* `Json.exists_not_same_of_leads`: a shared double breaks transitivity wherever it stands.
* `Json.sameValue_laws`: which of the laws hold, and where.
-/

namespace JsonSchema

/-! ## Equal numbers -/

namespace Number

variable {a b c n : Number}

theorem sameValue_iff : a.sameValue b ↔ a.value = b.value ∨ IsBlurred a b := by
  rw [sameValue, beq_iff_eq, order_eq_iff]

theorem sameValue_refl (a : Number) : a.sameValue a :=
  sameValue_iff.2 (.inl rfl)

theorem sameValue_symm (h : a.sameValue b) : b.sameValue a :=
  sameValue_iff.2 ((sameValue_iff.1 h).imp Eq.symm IsBlurred.symm)

/-- A number and a double are equal if they are equal as doubles. -/
theorem sameValue_iff_of_real (h : a.isInteger = false ∨ b.isInteger = false) :
    a.sameValue b ↔ a.toDouble.value = b.toDouble.value := by
  rw [sameValue, beq_iff_eq, order_of_real h, compare_eq_iff_eq]

theorem sameValue_iff_of_integer (ha : a.isInteger = true) (hb : b.isInteger = true) :
    a.sameValue b ↔ a.value = b.value := by
  rw [sameValue_iff, or_iff_left fun h => h.1 (ha.trans hb.symm)]

/-- Equal numbers are rounded to equal doubles. -/
theorem toDouble_eq_of_sameValue (h : a.sameValue b) : a.toDouble.value = b.toDouble.value := by
  cases a with
  | real => exact (sameValue_iff_of_real (.inl rfl)).1 h
  | int x hx =>
    cases b with
    | real => exact (sameValue_iff_of_real (.inr rfl)).1 h
    | int y hy =>
      have hvalue : (x : ℚ) = y := (sameValue_iff_of_integer rfl rfl).1 h
      obtain rfl : x = y := Int.cast_injective hvalue
      rfl

/-- A double that counts as equal to two different integers. -/
def IsShared (n : Number) : Prop :=
  n.isInteger = false ∧ ∃ i j : Number, i.isInteger = true ∧ j.isInteger = true ∧
    i.value ≠ j.value ∧ i.sameValue n ∧ j.sameValue n

/-- **Equality passes through numbers that are not shared.** -/
theorem sameValue_trans (hb : ¬ IsShared b) (hab : a.sameValue b) (hbc : b.sameValue c) :
    a.sameValue c := by
  by_cases hreal : a.isInteger = false ∨ c.isInteger = false
  · rw [sameValue_iff_of_real hreal]
    exact (toDouble_eq_of_sameValue hab).trans (toDouble_eq_of_sameValue hbc)
  rw [not_or, Bool.not_eq_false, Bool.not_eq_false] at hreal
  obtain ⟨ha, hc⟩ := hreal
  rw [sameValue_iff_of_integer ha hc]
  cases hkind : b.isInteger with
  | true =>
    exact ((sameValue_iff_of_integer ha hkind).1 hab).trans
      ((sameValue_iff_of_integer hkind hc).1 hbc)
  | false =>
    by_contra hne
    exact hb ⟨hkind, a, c, ha, hc, hne, hab, sameValue_symm hbc⟩

/-- Doubles that are shared have more than 53 bits. -/
theorem two_pow_le_of_isShared (h : IsShared n) : 2 ^ 53 ≤ |n.value| := by
  obtain ⟨-, i, j, -, -, hne, hi, hj⟩ := h
  rcases sameValue_iff.1 hi with hi | hi
  · rcases sameValue_iff.1 hj with hj | hj
    · exact absurd (hi.trans hj.symm) hne
    · exact (two_pow_le_of_isBlurred hj).2
  · exact (two_pow_le_of_isBlurred hi).2

end Number

/-! ## Lists whose entries correspond -/

section

variable {α β γ : Type} {R : α → β → Prop} {S : β → γ → Prop} {xs : List α} {ys : List β}
  {zs : List γ}

theorem forall₂_comp (h : List.Forall₂ R xs ys) (h' : List.Forall₂ S ys zs) :
    List.Forall₂ (fun x z => ∃ y, R x y ∧ S y z) xs zs := by
  induction h generalizing zs with
  | nil =>
    cases h'
    exact .nil
  | @cons x y _ _ hxy _ ih =>
    cases h' with
    | cons hyz hrest => exact .cons ⟨y, hxy, hyz⟩ (ih hrest)

theorem PermBy.comp (h : PermBy R xs ys) (h' : PermBy S ys zs) :
    PermBy (fun x z => ∃ y, R x y ∧ S y z) xs zs := by
  obtain ⟨us, hus, hp⟩ := h
  obtain ⟨ws, hws, hp'⟩ := h'
  obtain ⟨vs, hvs, hp''⟩ := List.perm_comp_forall₂ hp hws
  exact ⟨vs, forall₂_comp hus hvs, hp''.trans hp'⟩

/-- What corresponds is in the lists. -/
theorem forall₂_and_mem (h : List.Forall₂ R xs ys) :
    List.Forall₂ (fun x y => R x y ∧ x ∈ xs ∧ y ∈ ys) xs ys := by
  have hleft : List.Forall₂ (fun x y => R x y ∧ x ∈ xs) xs ys :=
    PermBy.forall₂_mono h fun x hx y hxy => ⟨hxy, hx⟩
  exact (PermBy.forall₂_mono hleft.flip fun y hy x hxy => ⟨hxy.1, hxy.2, hy⟩).flip

theorem PermBy.and_mem (h : PermBy R xs ys) :
    PermBy (fun x y => R x y ∧ x ∈ xs ∧ y ∈ ys) xs ys := by
  obtain ⟨us, hus, hp⟩ := h
  exact ⟨us, (forall₂_and_mem hus).imp fun x u hxu => ⟨hxu.1, hxu.2.1, hp.mem_iff.1 hxu.2.2⟩, hp⟩

/-- Entries that have one in another list each correspond to a list of those. -/
theorem exists_forall₂_of_forall_mem (h : ∀ x ∈ xs, ∃ y ∈ ys, R x y) :
    ∃ us, List.Forall₂ R xs us ∧ us ⊆ ys := by
  induction xs with
  | nil => exact ⟨[], .nil, List.nil_subset ys⟩
  | cons x rest ih =>
    obtain ⟨y, hy, hxy⟩ := h x List.mem_cons_self
    obtain ⟨us, hus, hsub⟩ := ih fun x' hx' => h x' (.tail _ hx')
    exact ⟨y :: us, .cons hxy hus, List.cons_subset.2 ⟨hy, hsub⟩⟩

end

/-! ## Equal values -/

namespace Json

variable {u v w : Json} {items items' : List Json} {members members' : List (String × Json)}

/-- Two well-formed values that are equal. -/
structure Same (v w : Json) : Prop where
  sameValue : v.sameValue w
  wellFormed : v.WellFormed
  wellFormed' : w.WellFormed

/-- The cases in which two values are equal. -/
inductive Same.View : Json → Json → Prop
  | null : View .null .null
  | bool (b : Bool) : View (.bool b) (.bool b)
  | num {a b : Number} (h : a.sameValue b) : View (.num a) (.num b)
  | str (s : String) : View (.str s) (.str s)
  | arr {items items' : List Json} (h : List.Forall₂ Same items items') :
    View (.arr items) (.arr items')
  | obj {members members' : List (String × Json)} (hn : (members.map Prod.fst).Nodup)
      (hn' : (members'.map Prod.fst).Nodup) (h : PermBy (Named Same) members members') :
    View (.obj members) (.obj members')

theorem sameItems_iff : sameItems items items' ↔
    List.Forall₂ (fun v w => sameValue v w) items items' := by
  induction items generalizing items' with
  | nil => cases items' <;> simp [sameItems]
  | cons item rest ih =>
    cases items' with
    | nil => simp [sameItems]
    | cons item' rest' => rw [sameItems, Bool.and_eq_true, ih, List.forall₂_cons]

/-- **Looking up the members of one object in the other is enough.** Their names differ, so that no
member of the other one is left out if there are as many. -/
theorem permBy_of_sameMembers (hn : (members.map Prod.fst).Nodup)
    (hlength : members.length = members'.length) (h : sameMembers members members') :
    PermBy (Named fun v w => sameValue v w) members members' := by
  obtain ⟨found, hfound, hsub⟩ : ∃ found, List.Forall₂ (Named fun v w => sameValue v w)
      members found ∧ found ⊆ members' := by
    refine exists_forall₂_of_forall_mem fun m hm => ?_
    obtain ⟨w, hw, hsame⟩ := sameMembers_iff.1 h m hm
    exact ⟨(m.1, w), mem_of_lookup hw, rfl, hsame⟩
  have hnodup : found.Nodup :=
    ((map_fst_perm (.of_forall₂ hfound)).nodup_iff.1 hn).of_map Prod.fst
  exact ⟨found, hfound, (List.subperm_of_subset hnodup hsub).perm_of_length_le
    (hfound.length_eq ▸ hlength.ge)⟩

theorem sameValue_obj_iff (hn : (members.map Prod.fst).Nodup)
    (hn' : (members'.map Prod.fst).Nodup) : sameValue (.obj members) (.obj members') ↔
      PermBy (Named fun v w => sameValue v w) members members' := by
  rw [sameValue, Bool.and_eq_true, beq_iff_eq]
  constructor
  · rintro ⟨hlength, h⟩
    exact permBy_of_sameMembers hn hlength h
  · intro h
    refine ⟨h.length_eq, sameMembers_iff.2 fun m hm => ?_⟩
    obtain ⟨⟨_, w⟩, hw, rfl, hsame⟩ := h.exists_right hm
    exact ⟨w, lookup_of_mem hn' hw, hsame⟩

theorem same_arr_iff : Same (.arr items) (.arr items') ↔ List.Forall₂ Same items items' := by
  constructor
  · rintro ⟨h, hv, hw⟩
    refine (forall₂_and_mem (sameItems_iff.1 h)).imp fun x y hxy => ?_
    exact ⟨hxy.1, wellFormedItems_iff.1 hv x hxy.2.1, wellFormedItems_iff.1 hw y hxy.2.2⟩
  · intro h
    refine ⟨sameItems_iff.2 (h.imp fun _ _ hxy => hxy.sameValue),
      wellFormedItems_iff.2 fun x hx => ?_, wellFormedItems_iff.2 fun y hy => ?_⟩
    · obtain ⟨y, -, hxy⟩ := (PermBy.of_forall₂ h).exists_right hx
      exact hxy.wellFormed
    · obtain ⟨x, -, hxy⟩ := (PermBy.of_forall₂ h).exists_left hy
      exact hxy.wellFormed'

theorem same_obj_iff : Same (.obj members) (.obj members') ↔
    (members.map Prod.fst).Nodup ∧ (members'.map Prod.fst).Nodup ∧
      PermBy (Named Same) members members' := by
  constructor
  · rintro ⟨h, hv, hw⟩
    refine ⟨hv.1, hw.1, ((sameValue_obj_iff hv.1 hw.1).1 h).and_mem.mono fun m _ m' hm => ?_⟩
    exact ⟨hm.1.1, hm.1.2, wellFormedMembers_iff.1 hv.2 m hm.2.1,
      wellFormedMembers_iff.1 hw.2 m' hm.2.2⟩
  · rintro ⟨hn, hn', h⟩
    refine ⟨(sameValue_obj_iff hn hn').2 (h.mono fun m _ m' hm => ⟨hm.1, hm.2.sameValue⟩),
      ⟨hn, wellFormedMembers_iff.2 fun m hm => ?_⟩, hn', wellFormedMembers_iff.2 fun m' hm' => ?_⟩
    · obtain ⟨m', -, -, hsame⟩ := h.exists_right hm
      exact hsame.wellFormed
    · obtain ⟨m, -, -, hsame⟩ := h.exists_left hm'
      exact hsame.wellFormed'

/-- **Equal values come in the cases of the view, and only in them.** -/
theorem same_iff_view : Same v w ↔ Same.View v w := by
  constructor
  · intro h
    cases v with
    | null => cases w <;> first | exact .null | cases h.sameValue
    | bool b =>
      cases w with
      | bool b' => obtain rfl : b = b' := beq_iff_eq.1 h.sameValue; exact .bool b
      | _ => cases h.sameValue
    | num a =>
      cases w with
      | num b => exact .num h.sameValue
      | _ => cases h.sameValue
    | str s =>
      cases w with
      | str s' => obtain rfl : s = s' := beq_iff_eq.1 h.sameValue; exact .str s
      | _ => cases h.sameValue
    | arr items =>
      cases w with
      | arr items' => exact .arr (same_arr_iff.1 h)
      | _ => cases h.sameValue
    | obj members =>
      cases w with
      | obj members' => obtain ⟨hn, hn', hp⟩ := same_obj_iff.1 h; exact .obj hn hn' hp
      | _ => cases h.sameValue
  · intro h
    cases h with
    | null => exact ⟨rfl, trivial, trivial⟩
    | bool b => exact ⟨by simp [sameValue], trivial, trivial⟩
    | num h => exact ⟨h, trivial, trivial⟩
    | str s => exact ⟨by simp [sameValue], trivial, trivial⟩
    | arr h => exact same_arr_iff.2 h
    | obj hn hn' h => exact same_obj_iff.2 ⟨hn, hn', h⟩

namespace Same

theorem refl (hv : v.WellFormed) : Same v v := by
  induction v using rec_parts with
  | null => exact same_iff_view.2 .null
  | bool b => exact same_iff_view.2 (.bool b)
  | num n => exact same_iff_view.2 (.num n.sameValue_refl)
  | str s => exact same_iff_view.2 (.str s)
  | arr items ih =>
    exact same_arr_iff.2 (List.forall₂_same.2 fun x hx => ih x hx (wellFormedItems_iff.1 hv x hx))
  | obj members ih =>
    refine same_obj_iff.2 ⟨hv.1, hv.1, .of_forall₂ (List.forall₂_same.2 fun m hm => ?_)⟩
    exact ⟨rfl, ih m hm (wellFormedMembers_iff.1 hv.2 m hm)⟩

theorem symm (h : Same v w) : Same w v := by
  induction v using rec_parts generalizing w with
  | num n =>
    cases same_iff_view.1 h with
    | num hn => exact same_iff_view.2 (.num (Number.sameValue_symm hn))
  | arr items ih =>
    cases same_iff_view.1 h with
    | arr hi => exact same_arr_iff.2 (PermBy.forall₂_mono hi fun x hx _ hxy => ih x hx hxy).flip
  | obj members ih =>
    cases same_iff_view.1 h with
    | obj hn hn' hp =>
      have hflip : PermBy (flip (Named Same)) members _ :=
        hp.mono fun m hm _ hs => ⟨hs.1.symm, ih m hm hs.2⟩
      exact same_obj_iff.2 ⟨hn', hn, hflip.symm⟩
  | _ => cases same_iff_view.1 h; exact h

/-- **Equality passes through values in which no shared double stands.** -/
theorem trans (hv : ∀ tokens n, v.Leads tokens (.num n) → ¬ n.IsShared) (h : Same u v)
    (h' : Same v w) : Same u w := by
  induction v using rec_parts generalizing u w with
  | num n =>
    cases same_iff_view.1 h with
    | num hn =>
      cases same_iff_view.1 h' with
      | num hn' =>
        exact same_iff_view.2 (.num (Number.sameValue_trans (hv [] n (.here _)) hn hn'))
  | arr items ih =>
    cases same_iff_view.1 h with
    | arr hi =>
      cases same_iff_view.1 h' with
      | arr hi' =>
        -- The right side as what equality to an item in the middle leads to.
        have hright : List.Forall₂ (fun y z => ∀ x, Same x y → Same x z) items _ :=
          PermBy.forall₂_mono hi' fun y hy z hyz x hxy => by
            obtain ⟨i, hget⟩ := List.getElem?_of_mem hy
            exact ih y hy (fun tokens n hl => hv _ n (.item hget hl)) hxy hyz
        exact same_arr_iff.2 ((forall₂_comp hi hright).imp fun _ _ ⟨_, hxy, hyz⟩ => hyz _ hxy)
  | obj members ih =>
    cases same_iff_view.1 h with
    | obj hn _ hp =>
      cases same_iff_view.1 h' with
      | obj _ hn' hp' =>
        have hright : PermBy (fun (m m' : String × Json) =>
            m.1 = m'.1 ∧ ∀ x, Same x m.2 → Same x m'.2) members _ :=
          hp'.mono fun m hm m' hs => ⟨hs.1, fun x hx =>
            ih m hm (fun tokens n hl => hv _ n (.member hm hl)) hx hs.2⟩
        refine same_obj_iff.2 ⟨hn, hn', (hp.comp hright).mono fun m _ m' => ?_⟩
        rintro ⟨_, hs, hname, hpass⟩
        exact ⟨hs.1.trans hname, hpass _ hs.2⟩
  | _ => cases same_iff_view.1 h; exact h'

end Same

/-! ## Where transitivity fails -/

section

variable {before after : List Json}

/-- An item may be replaced by an equal one. -/
theorem same_arr_append (hv : (arr (before ++ v :: after)).WellFormed) (h : Same u v) :
    Same (.arr (before ++ u :: after)) (.arr (before ++ v :: after)) := by
  have hwf : ∀ x ∈ before ++ v :: after, x.WellFormed := wellFormedItems_iff.1 hv
  have hbefore : List.Forall₂ Same before before :=
    List.forall₂_same.2 fun x hx => .refl (hwf x (List.mem_append_left _ hx))
  have hafter : List.Forall₂ Same after after :=
    List.forall₂_same.2 fun x hx => .refl (hwf x (List.mem_append_right _ (.tail _ hx)))
  exact same_arr_iff.2 (List.rel_append hbefore (.cons h hafter))

theorem same_of_same_arr_append
    (h : Same (.arr (before ++ u :: after)) (.arr (before ++ w :: after))) : Same u w := by
  induction before with
  | nil => exact (List.forall₂_cons.1 (same_arr_iff.1 h)).1
  | cons x rest ih => exact ih (same_arr_iff.2 (List.forall₂_cons.1 (same_arr_iff.1 h)).2)

end

section

variable {name : String} {before after : List (String × Json)}

/-- The value of a member may be replaced by an equal one. -/
theorem same_obj_append (hv : (obj (before ++ (name, v) :: after)).WellFormed) (h : Same u v) :
    Same (.obj (before ++ (name, u) :: after)) (.obj (before ++ (name, v) :: after)) := by
  have hwf : ∀ m ∈ before ++ (name, v) :: after, m.2.WellFormed := wellFormedMembers_iff.1 hv.2
  have hbefore : List.Forall₂ (Named Same) before before :=
    List.forall₂_same.2 fun m hm => ⟨rfl, .refl (hwf m (List.mem_append_left _ hm))⟩
  have hafter : List.Forall₂ (Named Same) after after :=
    List.forall₂_same.2 fun m hm => ⟨rfl, .refl (hwf m (List.mem_append_right _ (.tail _ hm)))⟩
  have hnames : (before ++ (name, u) :: after).map Prod.fst =
      (before ++ (name, v) :: after).map Prod.fst := by
    simp only [List.map_append, List.map_cons]
  exact same_obj_iff.2 ⟨hnames ▸ hv.1, hv.1,
    .of_forall₂ (List.rel_append hbefore (.cons ⟨rfl, h⟩ hafter))⟩

theorem same_of_same_obj_append
    (h : Same (.obj (before ++ (name, u) :: after)) (.obj (before ++ (name, w) :: after))) :
    Same u w := by
  obtain ⟨-, hn', hp⟩ := same_obj_iff.1 h
  have hmem {x : Json} : (name, x) ∈ before ++ (name, x) :: after :=
    List.mem_append_right _ List.mem_cons_self
  obtain ⟨⟨_, x⟩, hx, rfl, hsame⟩ := hp.exists_right hmem
  have hxw : some x = some w := (lookup_of_mem hn' hx).symm.trans (lookup_of_mem hn' hmem)
  exact Option.some.inj hxw ▸ hsame

end

variable {tokens : List (List Char)} {n : Number}

/-- **A shared double breaks transitivity wherever it stands.** -/
theorem exists_not_same_of_leads (hv : v.WellFormed) (hl : v.Leads tokens (.num n))
    (hn : n.IsShared) : ∃ u w, Same u v ∧ Same v w ∧ ¬ Same u w := by
  generalize hto : Json.num n = last at hl
  induction hl with
  | here =>
    subst hto
    obtain ⟨-, i, j, hi, hj, hne, hin, hjn⟩ := hn
    refine ⟨.num i, .num j, same_iff_view.2 (.num hin),
      same_iff_view.2 (.num (Number.sameValue_symm hjn)), fun h => ?_⟩
    exact hne ((Number.sameValue_iff_of_integer hi hj).1 h.sameValue)
  | @member members name next _ _ hm _ ih =>
    obtain ⟨before, after, rfl⟩ := List.append_of_mem hm
    obtain ⟨u, w, hu, hw, hne⟩ := ih (wellFormedMembers_iff.1 hv.2 _ hm) hto
    exact ⟨_, _, same_obj_append hv hu, (same_obj_append hv hw.symm).symm,
      fun h => hne (same_of_same_obj_append h)⟩
  | @item items i next _ _ hi _ ih =>
    have hm := List.mem_of_getElem? hi
    obtain ⟨before, after, rfl⟩ := List.append_of_mem hm
    obtain ⟨u, w, hu, hw, hne⟩ := ih (wellFormedItems_iff.1 hv _ hm) hto
    exact ⟨_, _, same_arr_append hv hu, (same_arr_append hv hw.symm).symm,
      fun h => hne (same_of_same_arr_append h)⟩

theorem sameValue_comm (hv : v.WellFormed) (hw : w.WellFormed) :
    v.sameValue w = w.sameValue v :=
  Bool.eq_iff_iff.2 ⟨fun h => (Same.symm ⟨h, hv, hw⟩).sameValue,
    fun h => (Same.symm ⟨h, hw, hv⟩).sameValue⟩

/-- **Which values pass equality on.** -/
theorem sameValue_trans_iff (hv : v.WellFormed) :
    (∀ u w : Json, u.WellFormed → w.WellFormed → u.sameValue v → v.sameValue w →
        u.sameValue w) ↔
      ∀ tokens n, v.Leads tokens (.num n) → ¬ n.IsShared := by
  constructor
  · intro hpass tokens n hl hn
    obtain ⟨u, w, hu, hw, hne⟩ := exists_not_same_of_leads hv hl hn
    exact hne ⟨hpass u w hu.wellFormed hw.wellFormed' hu.sameValue hw.sameValue,
      hu.wellFormed, hw.wellFormed'⟩
  · intro hshared u w hu hw huv hvw
    exact (Same.trans hshared ⟨huv, hu, hv⟩ ⟨hvw, hv, hw⟩).sameValue

/-- **The laws of equality.** It is reflexive and symmetric, and the order of members does not
matter for it. Equality to a value is passed on exactly if no double stands in the value that
different integers count as equal to, and such doubles are of size `2 ^ 53` at least. -/
theorem sameValue_laws (hv : v.WellFormed) :
    v.sameValue v ∧
      (∀ w, w.WellFormed → v.sameValue w = w.sameValue v) ∧
      (∀ v' w w', v.Reordered v' → w.WellFormed → w.Reordered w' →
        v.sameValue w = v'.sameValue w') ∧
      ((∀ u w : Json, u.WellFormed → w.WellFormed → u.sameValue v → v.sameValue w →
          u.sameValue w) ↔
        ∀ tokens n, v.Leads tokens (.num n) → ¬ n.IsShared) ∧
      ∀ tokens n, v.Leads tokens (.num n) → n.IsShared → 2 ^ 53 ≤ |n.value| :=
  ⟨(Same.refl hv).sameValue, fun _ hw => sameValue_comm hv hw,
    fun _ _ _ hr hw hr' => (hr.alike hv).sameValue_eq (hr'.alike hw),
    sameValue_trans_iff hv, fun _ _ _ => Number.two_pow_le_of_isShared⟩

/-- A list with the double 1. -/
def ones : Json :=
  .arr [.num (.real ⟨false, Nat.pow 2 52, 1022, by decide⟩)]

/-- Values that equal the list with the double 1 equal each other. -/
theorem sameValue_laws_ones : ones.WellFormed ∧ ones.sameValue ones ∧
    ∀ u w : Json, u.WellFormed → w.WellFormed → u.sameValue ones → ones.sameValue w →
      u.sameValue w := by
  have hwf : ones.WellFormed := by
    simp [ones, WellFormed, WellFormedItems]
  have hvalue : (⟨false, Nat.pow 2 52, 1022, by decide⟩ : Double).value = 1 := by
    have hunits : (⟨false, Nat.pow 2 52, 1022, by decide⟩ : Double).units =
        (Double.scale : ℤ) := by decide +kernel
    rw [Double.value, hunits]
    exact div_self (Nat.cast_ne_zero.2 Double.scale_pos.ne')
  obtain ⟨hrefl, -, -, hpass, hlarge⟩ := sameValue_laws hwf
  refine ⟨hwf, hrefl, hpass.2 fun tokens n hl hn => ?_⟩
  have hsize := hlarge tokens n hl hn
  cases hl with
  | item hi hl =>
    obtain rfl := List.mem_singleton.1 (List.mem_of_getElem? hi)
    cases hl
    rw [Number.value, hvalue] at hsize
    norm_num at hsize

/-- The integer `2 ^ 53`. -/
def unblurred : Json :=
  .num (.int 9007199254740992 (by decide))

/-- An integer and the next one count as equal to a double, and not as equal to each other. -/
theorem not_sameValue_trans_blurring :
    unblurred.sameValue (.num .blurring) ∧ (Json.num .blurring).sameValue (.num .blurred) ∧
      ¬ unblurred.sameValue (.num .blurred) := by
  decide +kernel

end Json

end JsonSchema
