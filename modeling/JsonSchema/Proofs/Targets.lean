import JsonSchema.Proofs.Evaluation
import JsonSchema.Proofs.Places
import Mathlib

/-!
# The schemas that an evaluation looks up

An evaluation looks up schemas below the schema at hand, and the values of references. The ones
below are there, and they are checked: a constraint or a routing names a place only if the rule of
the keyword has it checked as a schema.

* `Json.Every`: what holds of all members of a document, at any depth.
* `Json.Holds`: a schema holds a place.
* `Json.Checks`: a check of a schema visits a place as a schema.
* `Validation.LooksUp.checks`: the places that an evaluation looks up are visited by a check.
-/

namespace JsonSchema

namespace Json

variable {v w schema : Json} {name : String} {token : List Char} {tokens : List (List Char)}

/-! ## Properties of all members -/

mutual

/-- Every member of a value, at any depth, has a property. -/
def Every (P : String → Json → Prop) : Json → Prop
  | .arr items => EveryItem P items
  | .obj members => EveryMember P members
  | _ => True

/-- Every member of the values of a list has a property. -/
def EveryItem (P : String → Json → Prop) : List Json → Prop
  | [] => True
  | item :: rest => Every P item ∧ EveryItem P rest

/-- Every member of a list has a property, and so has every member of their values. -/
def EveryMember (P : String → Json → Prop) : List (String × Json) → Prop
  | [] => True
  | (name, value) :: rest => (P name value ∧ Every P value) ∧ EveryMember P rest

end

variable {P : String → Json → Prop}

theorem every_of_mem_items {items : List Json} (h : EveryItem P items) (hm : v ∈ items) :
    v.Every P := by
  induction items with
  | nil => cases hm
  | cons item rest ih =>
    rcases List.mem_cons.1 hm with rfl | hm
    · exact h.1
    · exact ih h.2 hm

theorem every_of_mem_members {members : List (String × Json)} (h : EveryMember P members)
    (hm : (name, v) ∈ members) : P name v ∧ v.Every P := by
  induction members with
  | nil => cases hm
  | cons member rest ih =>
    rcases List.mem_cons.1 hm with rfl | hm
    · exact h.1
    · exact ih h.2 hm

theorem Every.of_mem (h : v.Every P) (hm : (name, w) ∈ v.members) : P name w := by
  cases v with
  | obj members => exact (every_of_mem_members h hm).1
  | _ => cases hm

theorem Every.below? (h : v.Every P) (hw : v.below? token = some w) : w.Every P := by
  cases v with
  | obj members => exact (every_of_mem_members h (mem_of_lookup hw)).2
  | arr items =>
    obtain ⟨i, -, hi⟩ := Option.bind_eq_some_iff.1 hw
    exact every_of_mem_items h (List.mem_of_getElem? hi)
  | _ => cases hw

theorem Every.walk? (h : v.Every P) (hw : v.walk? tokens = some w) : w.Every P := by
  induction tokens generalizing v with
  | nil =>
    cases hw
    exact h
  | cons token rest ih =>
    obtain ⟨next, hnext, hw⟩ := Option.bind_eq_some_iff.1 hw
    exact ih (h.below? hnext) hw

theorem WellFormed.walk? (h : v.WellFormed) (hw : v.walk? tokens = some w) : w.WellFormed := by
  induction tokens generalizing v with
  | nil =>
    cases hw
    exact h
  | cons token rest ih =>
    obtain ⟨next, hnext, hw⟩ := Option.bind_eq_some_iff.1 hw
    exact ih (h.below? hnext) hw

theorem size_le_of_below? (hw : v.below? token = some w) : w.size ≤ v.size := by
  cases v with
  | obj members =>
    rw [size]
    exact Nat.le_succ_of_le (size_le_sizeMembers (mem_of_lookup hw))
  | arr items =>
    obtain ⟨i, -, hi⟩ := Option.bind_eq_some_iff.1 hw
    rw [size]
    exact Nat.le_succ_of_le (size_le_sizeItems (List.mem_of_getElem? hi))
  | _ => cases hw

theorem size_le_of_walk? (hw : v.walk? tokens = some w) : w.size ≤ v.size := by
  induction tokens generalizing v with
  | nil =>
    cases hw
    exact Nat.le_refl _
  | cons token rest ih =>
    obtain ⟨next, hnext, hw⟩ := Option.bind_eq_some_iff.1 hw
    exact (ih hw).trans (size_le_of_below? hnext)

/-! ## Places of a schema -/

/-- A schema holds a place: names lead to a value, or a value is the one of its reference. -/
def Holds (schema : Json) : Target → Prop
  | .below tokens => (schema.walk? tokens).isSome
  | .referenced value => ("$ref", value) ∈ schema.members

/-- A check of a schema visits a place, wherever the schema stands: names lead to a value that is
checked as a schema of its own. Values of references are not checked. -/
def Checks (schema : Json) : Target → Prop
  | .below tokens => ∃ v, schema.walk? tokens = some v ∧
      ∀ pointer, Vocabulary.standard.Nests pointer schema (tokens.foldl Pointer.child pointer) v
  | .referenced value => ("$ref", value) ∈ schema.members

theorem Checks.holds {t : Target} (h : schema.Checks t) : schema.Holds t := by
  cases t with
  | below tokens =>
    obtain ⟨v, hv, -⟩ := h
    exact Option.isSome_of_eq_some hv
  | referenced value => exact h

theorem mem_members_of_get? (h : schema.get? name = some v) : (name, v) ∈ schema.members := by
  cases schema with
  | obj members => exact mem_of_lookup h
  | _ => cases h

theorem checks_keyword {keyword : String} {rule : Rule} (h : schema.get? keyword = some v)
    (hr : Vocabulary.standard.rule? keyword = some rule)
    (hs : .nested [] v ∈ (rule.run v schema.members).steps) :
    schema.Checks (.below [keyword.toList]) := by
  refine ⟨v, ?_, fun pointer => ⟨keyword, v, rule, [], mem_members_of_get? h, hr, hs, rfl⟩⟩
  rw [Json.walk?, below?_toList schema keyword h]
  rfl

theorem checks_below_keyword {keyword : String} {rule : Rule} (h : schema.get? keyword = some v)
    (hw : v.below? token = some w) (hr : Vocabulary.standard.rule? keyword = some rule)
    (hs : .nested [token] w ∈ (rule.run v schema.members).steps) :
    schema.Checks (.below [keyword.toList, token]) := by
  refine ⟨w, ?_, fun pointer => ⟨keyword, v, rule, [token], mem_members_of_get? h, hr, hs, rfl⟩⟩
  rw [Json.walk?, below?_toList schema keyword h, Option.bind_some, Json.walk?, hw]
  rfl

theorem isSome_lookup_of_mem {members : List (String × Json)}
    (h : name ∈ members.map Prod.fst) : (lookup name members).isSome := by
  induction members with
  | nil => cases h
  | cons member rest ih =>
    obtain ⟨key, value⟩ := member
    rw [lookup]
    split
    · rfl
    · rename_i hne
      exact ih ((List.mem_cons.1 h).resolve_left fun he => hne he.symm)

end Json

/-! ## Schemas that rules have checked -/

namespace Rule

variable {value schema : Json} {members inner : List (String × Json)} {items : List Json}
  {name : String} {i : Nat}

theorem nested_mem_nestedItems (hi : i < items.length) :
    .nested [Nat.toDigits 10 i] items[i] ∈ nestedItems items :=
  List.mem_mapIdx.2 ⟨i, hi, rfl⟩

theorem nested_mem_schemaMap (hm : (name, schema) ∈ inner) :
    .nested [name.toList] schema ∈ (schemaMap.run (.obj inner) members).steps :=
  List.mem_map.2 ⟨_, hm, rfl⟩

theorem nested_mem_patternMap (hm : (name, schema) ∈ inner) :
    .nested [name.toList] schema ∈ (patternMap.run (.obj inner) members).steps :=
  List.mem_flatMap.2 ⟨_, hm, List.mem_append_right _ (List.mem_singleton_self _)⟩

theorem nested_mem_boolOrSchema (h : value.isObject) :
    .nested [] value ∈ (boolOrSchema.run value members).steps := by
  cases value with
  | obj inner => exact List.mem_singleton_self _
  | _ => cases h

theorem nested_mem_schemaOrList (h : value.isObject) :
    .nested [] value ∈ (schemaOrList.run value members).steps := by
  cases value with
  | obj inner => exact List.mem_singleton_self _
  | _ => cases h

theorem nested_mem_typeUnion (hi : i < items.length) (h : items[i].isObject) :
    .nested [Nat.toDigits 10 i] items[i] ∈ (typeUnion.run (.arr items) members).steps := by
  refine List.mem_append_right _ (List.mem_append_left _ ?_)
  refine List.mem_flatten.2 ⟨_, List.mem_mapIdx.2 ⟨i, hi, rfl⟩, ?_⟩
  cases hv : items[i] with
  | obj inner => exact List.mem_singleton_self _
  | _ => rw [hv] at h; cases h

theorem nested_mem_dependencies (hm : (name, schema) ∈ inner) (h : schema.isObject) :
    .nested [name.toList] schema ∈ (dependencies.run (.obj inner) members).steps := by
  refine List.mem_flatMap.2 ⟨_, hm, ?_⟩
  cases schema with
  | obj needed => exact List.mem_singleton_self _
  | _ => cases h

end Rule

open Json

variable {schema : Json} {t : Target} {keyword : String}

/-- The schemas of a union lie in the array that is the value of its keyword. -/
theorem TypeUnion.checks_of_mem_targets {value : Json} (h : schema.get? keyword = some value)
    (hr : Vocabulary.standard.rule? keyword = some .typeUnion)
    (ht : t ∈ (TypeUnion.ofJson value).targets keyword) : schema.Checks t := by
  obtain ⟨i, hi, rfl⟩ := List.mem_map.1 ht
  obtain ⟨items, item, rfl, hitem, hobject⟩ := exists_of_mem_schemas hi
  obtain ⟨hlt, rfl⟩ := List.getElem?_eq_some_iff.1 hitem
  exact checks_below_keyword h (below?_toDigits hlt) hr (Rule.nested_mem_typeUnion hlt hobject)

/-- **A constraint leaves the matter to places that a check of its schema visits.** -/
theorem Constraint.checks_of_mem_targets (hw : schema.WellFormed) {c : Constraint}
    (hc : c ∈ Constraint.ofSchema schema) (ht : t ∈ c.targets) : schema.Checks t := by
  obtain ⟨keyword, value, hm, hwritten⟩ := exists_member_of_mem hc
  have hvalue := hw.get?_of_mem hm
  cases c with
  | type union =>
    obtain ⟨rfl, rfl⟩ := hwritten
    exact TypeUnion.checks_of_mem_targets hvalue rfl ht
  | disallow union =>
    obtain ⟨rfl, rfl⟩ := hwritten
    exact TypeUnion.checks_of_mem_targets hvalue rfl ht
  | ref reference =>
    obtain ⟨rfl, rfl⟩ := hwritten
    cases List.mem_singleton.1 ht
    exact hm
  | extension index =>
    cases index with
    | none =>
      obtain ⟨rfl, hobject⟩ := hwritten
      cases List.mem_singleton.1 ht
      exact checks_keyword hvalue rfl (Rule.nested_mem_schemaOrList hobject)
    | some i =>
      obtain ⟨rfl, items, rfl, hi⟩ := hwritten
      cases List.mem_singleton.1 ht
      exact checks_below_keyword hvalue (below?_toDigits hi) rfl (Rule.nested_mem_nestedItems hi)
  | schemaDependency property =>
    obtain ⟨rfl, members, rfl, needed, hobject, hmember⟩ := hwritten
    cases List.mem_singleton.1 ht
    have hneeded := (hw.below? (below?_toList schema "dependencies" hvalue)).get?_of_mem hmember
    exact checks_below_keyword hvalue (below?_toList _ property hneeded) rfl
      (Rule.nested_mem_dependencies hmember hobject)
  | _ => cases ht

namespace Routing

/-- A keyword whose value must be an object to count, and then is checked. -/
theorem checks_of_hasSchema (hr : Vocabulary.standard.rule? keyword = some .boolOrSchema)
    (h : hasSchema schema keyword = true) : schema.Checks (.below [keyword.toList]) := by
  unfold hasSchema at h
  cases hv : schema.get? keyword with
  | none => rw [hv] at h; cases h
  | some v =>
    rw [hv] at h
    exact checks_keyword hv hr (Rule.nested_mem_boolOrSchema h)

theorem checks_of_mem_itemTargets {i : Nat} (h : t ∈ itemTargets schema i) : schema.Checks t := by
  unfold itemTargets at h
  split at h
  · rename_i hv
    cases List.mem_singleton.1 h
    exact checks_keyword hv rfl (Rule.nested_mem_schemaOrList rfl)
  · rename_i tuple hv
    split at h
    · rename_i hi
      cases List.mem_singleton.1 h
      exact checks_below_keyword hv (below?_toDigits hi) rfl (Rule.nested_mem_nestedItems hi)
    · split at h
      · rename_i hs
        cases List.mem_singleton.1 h
        exact checks_of_hasSchema rfl hs
      · cases h
  · cases h

theorem checks_of_mem_listedTargets {fits : String → String → Bool} {name : String}
    (h : t ∈ listedTargets fits schema name) : schema.Checks t := by
  unfold listedTargets at h
  rcases List.mem_append.1 h with h | h
  · split at h
    · rename_i hs
      cases List.mem_singleton.1 h
      obtain ⟨v, hv⟩ := Option.isSome_iff_exists.1 hs
      obtain ⟨properties, hp, hv⟩ := Option.bind_eq_some_iff.1 hv
      cases properties with
      | obj members =>
        exact checks_below_keyword hp (below?_toList (.obj members) name hv) rfl
          (Rule.nested_mem_schemaMap (mem_of_lookup hv))
      | _ => cases hv
    · cases h
  · obtain ⟨p, hp, rfl⟩ := List.mem_map.1 h
    have hp := (List.mem_filter.1 hp).1
    cases hv : schema.get? "patternProperties" with
    | none => rw [hv] at hp; cases hp
    | some patterns =>
      rw [hv] at hp
      cases patterns with
      | obj members =>
        obtain ⟨found, hfound⟩ := Option.isSome_iff_exists.1 (isSome_lookup_of_mem hp)
        exact checks_below_keyword hv (below?_toList (.obj members) p hfound) rfl
          (Rule.nested_mem_patternMap (mem_of_lookup hfound))
      | _ => cases hp

theorem checks_of_mem_memberTargets {fits : String → String → Bool} {name : String}
    (h : t ∈ memberTargets fits schema name) : schema.Checks t := by
  simp only [memberTargets] at h
  split at h
  · rename_i hs
    cases List.mem_singleton.1 h
    exact checks_of_hasSchema rfl (Bool.and_eq_true_iff.1 hs).2
  · exact checks_of_mem_listedTargets h

/-- **A child is routed to places that a check of the schema visits.** -/
theorem checks_of_mem_targets {r : Routing} {step : PathStep} (h : t ∈ r.targets schema step) :
    schema.Checks t := by
  unfold targets at h
  split at h
  · exact checks_of_mem_itemTargets h
  · exact checks_of_mem_memberTargets h
  · cases h

end Routing

/-- **The places that an evaluation looks up are visited by a check of its schema.** -/
theorem Validation.LooksUp.checks {s : SchemaNode} {n n' : Instance} (h : LooksUp s n t n')
    (hw : s.raw.WellFormed) : s.raw.Checks t := by
  cases h with
  | constraint hc ht =>
    exact Constraint.checks_of_mem_targets hw (List.mem_filter.1 hc).1
      (Constraint.mem_targets_of_judge ht)
  | child hm ht =>
    obtain ⟨step, hstep⟩ := Routing.exists_step_of_mem_childTargets ht
    exact Routing.checks_of_mem_targets hstep

end JsonSchema
