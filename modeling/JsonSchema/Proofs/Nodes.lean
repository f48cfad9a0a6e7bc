import JsonSchema.Proofs.Calls
import JsonSchema.Proofs.Reachable
import Mathlib

/-!
# Nodes and their own references

A node makes a reference of its locator and its pointer. The pointer is escaped as a pointer and
again as a fragment, the reference is brought to its normal form, and a look-up takes all of this
back. So the reference of a node gives the node again, and names lead from a node to wherever they
lead from its value.

* `Json.Leads`: where names and indices lead from a value.
* `Fragment.exists_at?_of_locate?`: what a fragment locates is a place of the document.
* `Reference.scope_append`: a base further down, from the values on the way.
* `Registry.getSchema_reference`: a node and its own reference.
* `Registry.find_below_of_leads` and `Registry.find_below_of_not_leads`: looking below a node.
-/

namespace JsonSchema

/-! ## Ways through a document -/

theorem Pointer.item_eq_child (pointer : List Char) (i : Nat) :
    item pointer i = child pointer (Nat.toDigits 10 i) := by
  rw [child, escape_toDigits, item]

namespace Json

variable {v w d : Json} {tokens : List (List Char)} {start : List Char}

/-- Names lead from an object to its members, and decimal indices from an array to its items. -/
inductive Leads : Json → List (List Char) → Json → Prop
  | here (v : Json) : Leads v [] v
  | member {members : List (String × Json)} {name : String} {next w : Json}
      {rest : List (List Char)} (hm : (name, next) ∈ members) (h : Leads next rest w) :
      Leads (.obj members) (name.toList :: rest) w
  | item {items : List Json} {i : Nat} {next w : Json} {rest : List (List Char)}
      (hi : items[i]? = some next) (h : Leads next rest w) :
      Leads (.arr items) (Nat.toDigits 10 i :: rest) w

theorem walk?_eq_some_iff (hv : v.WellFormed) : v.walk? tokens = some w ↔ v.Leads tokens w := by
  constructor
  · intro h
    clear hv
    induction tokens generalizing v with
    | nil =>
      cases h
      exact .here _
    | cons token rest ih =>
      obtain ⟨next, hnext, hrest⟩ := Option.bind_eq_some_iff.1 h
      cases v with
      | obj members =>
        rw [← String.toList_ofList (l := token)]
        exact .member (mem_of_lookup hnext) (ih hrest)
      | arr items =>
        obtain ⟨i, hi, hitem⟩ := Option.bind_eq_some_iff.1 hnext
        rw [Pointer.eq_toDigits_of_index? hi]
        exact .item hitem (ih hrest)
      | _ => cases hnext
  · intro h
    induction h with
    | here => rfl
    | member hm _ ih =>
      rw [walk?, below?, String.ofList_toList, lookup_of_mem hv.1 hm, Option.bind_some]
      exact ih (wellFormed_of_mem_members hv.2 hm)
    | item hi _ ih =>
      rw [walk?, below?, Pointer.index?_toDigits, Option.bind_some, hi, Option.bind_some]
      exact ih (wellFormed_of_mem_items hv (List.mem_of_getElem? hi))

theorem WellFormed.at? (hd : d.WellFormed) (h : d.at? start = some v) : v.WellFormed := by
  obtain ⟨tokens, -, hwalk⟩ := Option.bind_eq_some_iff.1 h
  exact hd.walk? hwalk

/-- The values that names lead to from a value, one after the other. -/
def met : Json → List (List Char) → List Json
  | _, [] => []
  | v, token :: rest =>
    match v.below? token with
    | some next => next :: next.met rest
    | none => []

/-! ## Anchors -/

theorem at?_child (h : d.at? start = some v) (name : List Char) :
    d.at? (Pointer.child start name) = v.below? name := by
  refine (at?_foldl_child h [name]).trans ?_
  rw [walk?]
  cases v.below? name <;> rfl

theorem at?_item {items : List Json} (h : d.at? start = some (.arr items)) (i : Nat) :
    d.at? (Pointer.item start i) = items[i]? := by
  rw [Pointer.item_eq_child, at?_child h, below?, Pointer.index?_toDigits, Option.bind_some]

/-- An anchor is found where a value has it as `id`. -/
theorem at?_of_findAnchor? (id : String) (start : List Char) (v : Json) :
    d.at? start = some v → v.WellFormed → ∀ p, findAnchor? id start v = some p →
      ∃ w, d.at? p = some w ∧ w.hasId id := by
  refine findAnchor?.induct id
    (fun start v => d.at? start = some v → v.WellFormed → ∀ p, findAnchor? id start v = some p →
      ∃ w, d.at? p = some w ∧ w.hasId id)
    (fun start i items => (∀ k, d.at? (Pointer.item start (i + k)) = items[k]?) →
      WellFormedItems items → ∀ p, findAnchorItems? id start i items = some p →
        ∃ w, d.at? p = some w ∧ w.hasId id)
    (fun start members =>
      (∀ m ∈ members, d.at? (Pointer.child start m.1.toList) = some m.2) →
        WellFormedMembers members → ∀ p, findAnchorMembers? id start members = some p →
          ∃ w, d.at? p = some w ∧ w.hasId id)
    ?here ?members ?items ?other ?noItem ?item ?noMember ?member start v
  case here =>
    intro start members hid hat _ p hp
    rw [findAnchor?, if_pos hid] at hp
    cases hp
    exact ⟨_, hat, hid⟩
  case members =>
    intro start members hid ih hat hw
    rw [findAnchor?, if_neg hid]
    refine ih (fun m hm => ?_) hw.2
    rw [at?_child hat, below?, String.ofList_toList]
    exact lookup_of_mem hw.1 hm
  case items =>
    intro start items ih hat hw
    rw [findAnchor?]
    exact ih (fun k => by rw [Nat.zero_add, at?_item hat]) hw
  case other =>
    intro v start hobj harr _ _ p hp
    rw [findAnchor?] at hp
    · cases hp
    · exact hobj
    · exact harr
  case noItem => exact fun _ _ _ _ p hp => by cases hp
  case item =>
    intro start i item rest hitem hrest hat hw p hp
    rw [findAnchorItems?] at hp
    rcases Option.or_eq_some_iff.1 hp with hp | ⟨-, hp⟩
    · exact hitem (hat 0) hw.1 p hp
    · refine hrest (fun k => ?_) hw.2 p hp
      rw [Nat.add_assoc, Nat.add_comm 1 k]
      exact hat (k + 1)
  case noMember => exact fun _ _ _ p hp => by cases hp
  case member =>
    intro start name value rest hvalue hrest hat hw p hp
    obtain ⟨hhere, hmore⟩ := List.forall_mem_cons.1 hat
    rw [findAnchorMembers?] at hp
    rcases Option.or_eq_some_iff.1 hp with hp | ⟨-, hp⟩
    · exact hvalue hhere hw.1 p hp
    · exact hrest hmore hw.2 p hp

end Json

/-- **What a fragment locates is a place of the document.** -/
theorem Fragment.exists_at?_of_locate? {f : Fragment} {d : Json} {place : List Char}
    (hd : d.WellFormed) (h : f.locate? d = some place) : ∃ v, d.at? place = some v := by
  cases f with
  | pointer text =>
    obtain ⟨v, hv, rfl⟩ := Option.map_eq_some_iff.1 h
    exact ⟨v, hv⟩
  | anchor name =>
    obtain ⟨w, hw, -⟩ := Json.at?_of_findAnchor? _ [] d (Json.at?_nil d) hd place h
    exact ⟨w, hw⟩

/-! ## Bases further down -/

namespace Reference

variable {v w : Json} {base : Reference} {front tokens : List (List Char)}

theorem scope_eq_met (base : Reference) (v : Json) (tokens : List (List Char)) :
    base.scope v tokens = (v.met tokens).foldl refine (base.refine v) := by
  induction tokens generalizing base v with
  | nil => rfl
  | cons token rest ih =>
    rw [scope, Json.met]
    cases v.below? token with
    | none => rfl
    | some next => exact ih (base.refine v) next

/-- A base further down refines the base at a place by the values on the way from there. -/
theorem scope_append (h : v.walk? front = some w) (base : Reference)
    (tokens : List (List Char)) :
    base.scope v (front ++ tokens) = (w.met tokens).foldl refine (base.scope v front) := by
  induction front generalizing base v with
  | nil =>
    cases h
    exact scope_eq_met base _ tokens
  | cons token rest ih =>
    obtain ⟨next, hnext, hrest⟩ := Option.bind_eq_some_iff.1 h
    rw [List.cons_append, scope, scope, hnext]
    exact ih hrest _

end Reference

/-! ## Nodes -/

/-- The node that names lead to from a node. -/
def SchemaNode.down (n : SchemaNode) (tokens : List (List Char)) : SchemaNode :=
  { n with
    pointer := tokens.foldl Pointer.child n.pointer
    base := (n.raw.met tokens).foldl Reference.refine n.base }

theorem SchemaNode.of_foldl_child {locator : Reference} {d v : Json} {place : List Char}
    (h : d.at? place = some v) (tokens : List (List Char)) :
    SchemaNode.of locator d (tokens.foldl Pointer.child place) =
      (SchemaNode.of locator d place).down tokens := by
  obtain ⟨front, hfront, hwalk⟩ := Option.bind_eq_some_iff.1 h
  rw [down, raw_of_at? locator h, of, of, Pointer.tokens?_foldl_child hfront, hfront,
    Option.getD_some, Option.getD_some, Reference.scope_append hwalk]

namespace Registry

variable {g : Registry} {r : Reference} {n : SchemaNode} {w : Json} {tokens : List (List Char)}

/-- A node that a registry without fetchers gives lies at a place of a document that is kept. -/
theorem exists_at?_of_getSchema (offline : g.fetchers = [])
    (kept : ∀ key d, (key, .ok d) ∈ g.cache → d.WellFormed) (h : (g.getSchema r).1 = .ok n) :
    ∃ d place v, g.cached? r.toLocator = some (.ok d) ∧ d.WellFormed ∧ d.at? place = some v ∧
      n = .of r.toLocator d place := by
  rw [getSchema_fst] at h
  obtain ⟨d, hd, hn⟩ := Uri.bind_eq_ok_iff.1 h
  have hc : g.cached? r.toLocator = some (.ok d) := by
    cases hc : g.cached? r.toLocator with
    | some outcome =>
      rw [document_of_cached? hc] at hd
      exact congrArg some hd
    | none =>
      rw [document_of_not_cached hc, load_of_offline offline] at hd
      cases hd
  have hk : g.kept? r.toLocator = some d := by
    rw [kept?, hc]
    rfl
  have hw := kept _ _ (mem_cache_of_kept? hk)
  obtain ⟨place, hp, rfl⟩ := nodeOf_eq_ok hn
  obtain ⟨v, hv⟩ := Fragment.exists_at?_of_locate? hw hp
  exact ⟨d, place, v, hc, hw, hv, rfl⟩

/-- A look-up without fetchers that gives a node leaves the registry as it is. -/
theorem getSchema_snd (offline : g.fetchers = [])
    (kept : ∀ key d, (key, .ok d) ∈ g.cache → d.WellFormed) (h : (g.getSchema r).1 = .ok n) :
    (g.getSchema r).2 = g := by
  obtain ⟨d, place, v, hc, -⟩ := exists_at?_of_getSchema offline kept h
  rw [getSchema, document_of_cached? hc]

/-- **A node is found again by its own reference.** -/
theorem getSchema_reference (offline : g.fetchers = [])
    (kept : ∀ key d, (key, .ok d) ∈ g.cache → d.WellFormed) (normal : r.IsNormal)
    (h : (g.getSchema r).1 = .ok n) : g.getSchema n.reference = (.ok n, g) := by
  obtain ⟨d, place, v, hc, -, hv, rfl⟩ := exists_at?_of_getSchema offline kept h
  exact getSchema_withPointer (Reference.isStable_toLocator normal) hc hv

/-- **Names lead from a node to where they lead from its value.** -/
theorem find_below_of_leads (offline : g.fetchers = [])
    (kept : ∀ key d, (key, .ok d) ∈ g.cache → d.WellFormed) (normal : r.IsNormal)
    (h : (g.getSchema r).1 = .ok n) (hw : n.raw.Leads tokens w) :
    g.find n (.below tokens) = (.ok (n.down tokens), g) ∧ (n.down tokens).raw = w := by
  obtain ⟨d, place, v, hc, hd, hv, rfl⟩ := exists_at?_of_getSchema offline kept h
  have hat := Json.at?_foldl_child hv tokens
  rw [SchemaNode.raw_of_at? _ hv, ← Json.walk?_eq_some_iff (hd.at? hv)] at hw
  rw [hw] at hat
  rw [← SchemaNode.of_foldl_child hv]
  exact ⟨getSchema_withPointer (Reference.isStable_toLocator normal) hc hat,
    SchemaNode.raw_of_at? _ hat⟩

/-- Names that lead nowhere from the value of a node are a dangling reference. -/
theorem find_below_of_not_leads (offline : g.fetchers = [])
    (kept : ∀ key d, (key, .ok d) ∈ g.cache → d.WellFormed) (normal : r.IsNormal)
    (h : (g.getSchema r).1 = .ok n) (hw : ¬∃ w, n.raw.Leads tokens w) :
    g.find n (.below tokens) =
      (.error (.dangling (n.locator.withPointer (tokens.foldl Pointer.child n.pointer))), g) := by
  have hnode := isNormal_of_getSchema normal h
  obtain ⟨d, place, v, hc, hd, hv, rfl⟩ := exists_at?_of_getSchema offline kept h
  have hsteps : Pointer.HasSteps (tokens.foldl Pointer.child place) :=
    hnode.steps.foldl_child tokens
  have hstable := Reference.isStable_toLocator normal
  rw [SchemaNode.raw_of_at? _ hv] at hw
  have hat : d.at? (tokens.foldl Pointer.child place) = none := by
    rw [Json.at?_foldl_child hv, Option.eq_none_iff_forall_ne_some]
    exact fun w hwalk => hw ⟨w, (Json.walk?_eq_some_iff (hd.at? hv)).1 hwalk⟩
  have hlocate : (Fragment.ofText (tokens.foldl Pointer.child place)).locate? d = none := by
    rw [Pointer.HasSteps.ofText hsteps, Fragment.locate?, hat]
    rfl
  have hdangling : nodeOf (r.toLocator.withPointer (tokens.foldl Pointer.child place)) d =
      .error (.dangling (r.toLocator.withPointer (tokens.foldl Pointer.child place))) := by
    rw [nodeOf, hstable.fragment_withPointer, hlocate]
  rw [find, SchemaNode.locate]
  simp only
  rw [getSchema, SchemaNode.of]
  simp only
  rw [hstable.toLocator_withPointer, document_of_cached? hc]
  exact congrArg (·, g) hdangling

/-- **Nodes, their own references and the way down.** In a registry without fetchers, the
reference of a node gives the node again, also if an anchor led to it. Names lead from the node to
where they lead from its value, with the pointer that spells them and the base that the values on
the way refine; if they lead nowhere there, the reference that they spell dangles. -/
theorem reference_and_descent (offline : g.fetchers = [])
    (kept : ∀ key d, (key, .ok d) ∈ g.cache → d.WellFormed) (normal : r.IsNormal)
    (h : (g.getSchema r).1 = .ok n) :
    (g.getSchema r).2 = g ∧ g.getSchema n.reference = (.ok n, g) ∧ ∀ tokens,
      (∀ w, n.raw.Leads tokens w →
        g.find n (.below tokens) = (.ok (n.down tokens), g) ∧ (n.down tokens).raw = w) ∧
      ((¬∃ w, n.raw.Leads tokens w) → g.find n (.below tokens) =
        (.error (.dangling (n.locator.withPointer (tokens.foldl Pointer.child n.pointer))), g)) :=
  ⟨getSchema_snd offline kept h, getSchema_reference offline kept normal h, fun _ =>
    ⟨fun _ => find_below_of_leads offline kept normal h,
      find_below_of_not_leads offline kept normal h⟩⟩

/-- A document with an anchor, and with names that pointers and fragments escape. -/
def escapedNames : Json :=
  .obj [("properties", .obj [("a/b", .obj [("id", .str "#x"),
    ("properties", .obj [("~%", .obj [("id", .str "c/")])])])])]

theorem reference_and_descent_escaped :
    ∃ r n, Reference.parse "#x" = .ok r ∧ ((single escapedNames).2.getSchema r).1 = .ok n ∧
      n.pointer = "/properties/a~1b".toList ∧
      ((single escapedNames).2.getSchema n.reference).1 = .ok n ∧
      ((single escapedNames).2.find n (.below ["properties".toList, "~%".toList])).1 =
        .ok (n.down ["properties".toList, "~%".toList]) ∧
      ((single escapedNames).2.find n (.below ["items".toList])).1 =
        .error (.dangling (n.locator.withPointer "/properties/a~1b/items".toList)) := by
  have hparse : Reference.parse "#x" = .ok ⟨⟨none, none, [], none, some ['x']⟩⟩ := by cbv
  have hget : ((single escapedNames).2.getSchema ⟨⟨none, none, [], none, some ['x']⟩⟩).1 =
      .ok (.of .empty escapedNames "/properties/a~1b".toList) := by
    cbv
  have hoffline : (single escapedNames).2.fetchers = [] := by cbv
  have hkept : ∀ key d, (key, .ok d) ∈ (single escapedNames).2.cache → d.WellFormed := by
    have hcache : (single escapedNames).2.cache = [([], .ok escapedNames)] := by cbv
    intro key d hm
    rw [hcache, List.mem_singleton] at hm
    cases hm
    simp [escapedNames, Json.WellFormed, Json.WellFormedMembers]
  obtain ⟨-, hself, hdown⟩ :=
    reference_and_descent hoffline hkept (Reference.isNormal_of_parse hparse) hget
  have hraw : (SchemaNode.of .empty escapedNames "/properties/a~1b".toList).raw =
      .obj [("id", .str "#x"), ("properties", .obj [("~%", .obj [("id", .str "c/")])])] := by
    cbv
  refine ⟨_, _, hparse, hget, rfl, congrArg Prod.fst hself, ?_, ?_⟩
  · have hleads : (SchemaNode.of .empty escapedNames "/properties/a~1b".toList).raw.Leads
        ["properties".toList, "~%".toList] (.obj [("id", .str "c/")]) := by
      rw [hraw]
      exact .member (List.mem_cons_of_mem _ List.mem_cons_self)
        (.member List.mem_cons_self (.here _))
    exact congrArg Prod.fst ((hdown _).1 _ hleads).1
  · refine congrArg Prod.fst ((hdown ["items".toList]).2 ?_)
    rw [hraw]
    rintro ⟨w, hw⟩
    have hwf : (Json.obj [("id", .str "#x"),
        ("properties", .obj [("~%", .obj [("id", .str "c/")])])]).WellFormed := by
      simp [Json.WellFormed, Json.WellFormedMembers]
    rw [← Json.walk?_eq_some_iff hwf] at hw
    cases hw

end Registry

end JsonSchema
