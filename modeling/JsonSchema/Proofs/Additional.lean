import JsonSchema.Json.Reader
import JsonSchema.Proofs.Targets
import JsonSchema.Proofs.Violation
import Mathlib

/-!
# Additional members and items

The values of `additionalProperties` and `additionalItems` speak of the children that no other
keyword speaks of. If the value is `false`, there is a constraint that forbids such children; if it
is a schema, such children are routed to it. The two are computed apart, and they classify children
alike, whatever it means that a name fits a pattern.

* `Json.withMember`: a schema with another value for a keyword.
* `Constraint.Reports`: a constraint of a schema reports a violation.
* `Constraint.isListed_eq_false_iff`: names that are not listed are not routed elsewhere.
* `Routing.forbidden_iff_routed`: what is forbidden by `false` is what is routed to a schema.
-/

namespace JsonSchema

namespace Json

variable {name keyword : String} {value : Json} {members : List (String × Json)}

theorem lookup_replace_self (h : members.any fun m => m.1 == name) :
    lookup name (members.map fun m => if m.1 == name then (name, value) else m) = some value := by
  induction members with
  | nil => cases h
  | cons member rest ih =>
    by_cases hname : member.1 = name
    · simp [lookup, hname]
    · rw [List.any_cons, beq_eq_false_iff_ne.2 hname, Bool.false_or] at h
      simpa [lookup, hname] using ih h

theorem lookup_replace_of_ne (h : keyword ≠ name) :
    lookup keyword (members.map fun m => if m.1 == name then (name, value) else m) =
      lookup keyword members := by
  induction members with
  | nil => rfl
  | cons member rest ih =>
    by_cases hname : member.1 = name
    · have hkeyword : member.1 ≠ keyword := fun he => h (he.symm.trans hname)
      simpa [lookup, hname, h.symm] using ih
    · simpa only [List.map_cons, lookup, beq_eq_false_iff_ne.2 hname, Bool.false_eq_true, if_false]
        using if_congr Iff.rfl rfl ih

theorem lookup_put (name keyword : String) (value : Json) (members : List (String × Json)) :
    lookup keyword (put name value members) =
      if keyword = name then some value else lookup keyword members := by
  unfold put
  split
  · rename_i hany
    split
    · rename_i heq
      rw [heq, lookup_replace_self hany]
    · rename_i hne
      exact lookup_replace_of_ne hne
  · simp only [lookup, eq_comm]

/-- A schema with a value for a keyword, in place of the one that it may have. -/
def withMember (schema : Json) (keyword : String) (value : Json) : Json :=
  .obj (put keyword value schema.members)

theorem lookup_members (schema : Json) (name : String) :
    lookup name schema.members = schema.get? name := by
  cases schema <;> rfl

@[simp] theorem get?_withMember (schema : Json) (keyword : String) (value : Json) (name : String) :
    (schema.withMember keyword value).get? name =
      if name = keyword then some value else schema.get? name := by
  rw [withMember, get?, lookup_put, lookup_members]

theorem mem_members_withMember (schema : Json) (keyword : String) (value : Json) :
    (keyword, value) ∈ (schema.withMember keyword value).members :=
  mem_members_of_get? (by rw [get?_withMember, if_pos rfl])

theorem isSome_get?_iff {v : Json} : (v.get? name).isSome ↔ name ∈ v.members.map Prod.fst := by
  rw [← lookup_members]
  refine ⟨fun h => ?_, isSome_lookup_of_mem⟩
  obtain ⟨w, hw⟩ := Option.isSome_iff_exists.1 h
  exact List.mem_map_of_mem (mem_of_lookup hw)

end Json

namespace Constraint

variable {members : List (String × Json)} {keyword name : String} {value schema : Json}
  {c : Constraint}

/-- A constraint of a schema reports a violation of a value for its keyword. -/
def Reports (schema : Json) (keyword : String) (v : Json) (violation : Violation) : Prop :=
  ∃ c ∈ forType schema (NodeType.of v), c.keyword = keyword ∧
    ∃ violations, c.judge v = .failed violations ∧ violation ∈ violations

/-! ## The constraints on additional children -/

theorem eq_of_mem_additionalProperties (h : c ∈ ofMember members "additionalProperties" value) :
    c = additionalProperties (namesOf (Json.lookup "properties" members))
      (namesOf (Json.lookup "patternProperties" members)) := by
  cases value with
  | bool b =>
    cases b with
    | false => exact List.mem_singleton.1 h
    | true => cases h
  | _ => cases h

theorem eq_of_mem_additionalItems (h : c ∈ ofMember members "additionalItems" value) :
    ∃ tuple, Json.lookup "items" members = some (.arr tuple) ∧
      c = additionalItems tuple.length := by
  cases value with
  | bool b =>
    cases b with
    | false =>
      simp only [ofMember] at h
      split at h
      · rename_i tuple htuple
        exact ⟨tuple, htuple, List.mem_singleton.1 h⟩
      · cases h
    | true => cases h
  | _ => cases h

/-- **The constraint on additional properties**, where their keyword has the value `false`. -/
theorem mem_ofSchema_additionalProperties_iff :
    c ∈ ofSchema (schema.withMember "additionalProperties" (.bool false)) ∧
        c.keyword = "additionalProperties" ↔
      c = additionalProperties (namesOf (schema.get? "properties"))
        (namesOf (schema.get? "patternProperties")) := by
  have hnames {k : String} (hne : k ≠ "additionalProperties") :
      Json.lookup k (schema.withMember "additionalProperties" (.bool false)).members =
        schema.get? k := by
    rw [Json.lookup_members, Json.get?_withMember, if_neg hne]
  constructor
  · rintro ⟨hc, hk⟩
    obtain ⟨value, -, hc⟩ := exists_mem_ofMember hc hk (by decide)
    rw [eq_of_mem_additionalProperties hc, hnames (by decide), hnames (by decide)]
  · rintro rfl
    refine ⟨List.mem_flatMap.2 ⟨_, Json.mem_members_withMember _ _ _, ?_⟩, rfl⟩
    simp only [ofMember]
    rw [hnames (by decide), hnames (by decide), List.mem_singleton]

/-- **The constraint on additional items**, where their keyword has the value `false`. -/
theorem mem_ofSchema_additionalItems_iff :
    c ∈ ofSchema (schema.withMember "additionalItems" (.bool false)) ∧
        c.keyword = "additionalItems" ↔
      ∃ tuple, schema.get? "items" = some (.arr tuple) ∧ c = additionalItems tuple.length := by
  have hitems : Json.lookup "items"
      (schema.withMember "additionalItems" (.bool false)).members = schema.get? "items" := by
    rw [Json.lookup_members, Json.get?_withMember, if_neg (by decide)]
  constructor
  · rintro ⟨hc, hk⟩
    obtain ⟨value, -, hc⟩ := exists_mem_ofMember hc hk (by decide)
    obtain ⟨tuple, htuple, rfl⟩ := eq_of_mem_additionalItems hc
    exact ⟨tuple, hitems ▸ htuple, rfl⟩
  · rintro ⟨tuple, htuple, rfl⟩
    refine ⟨List.mem_flatMap.2 ⟨_, Json.mem_members_withMember _ _ _, ?_⟩, rfl⟩
    simp only [ofMember]
    rw [hitems, htuple, List.mem_singleton]

/-! ## What the constraints report -/

theorem mem_extraNames_iff {fits : String → String → Bool} {names patterns : List String} :
    name ∈ extraNames fits names patterns members ↔
      name ∈ members.map Prod.fst ∧ isListed fits names patterns name = false := by
  rw [extraNames, List.mem_filter, Bool.not_eq_true']

/-- The members that are reported as additional ones. -/
theorem reports_additionalProperties_iff :
    Reports (schema.withMember "additionalProperties" (.bool false)) "additionalProperties"
        (.obj members) (.extraProperty name) ↔
      name ∈ extraNames Regex.finds (namesOf (schema.get? "properties"))
        (namesOf (schema.get? "patternProperties")) members := by
  have hviolation {names : List String} :
      (∃ vs, Verdict.ofViolations (names.map .extraProperty) = .failed vs ∧
        Violation.extraProperty name ∈ vs) ↔ name ∈ names := by
    rw [Verdict.mem_ofViolations_iff, List.mem_map]
    simp
  constructor
  · rintro ⟨c, hc, hk, hfailed⟩
    obtain rfl := mem_ofSchema_additionalProperties_iff.1 ⟨(List.mem_filter.1 hc).1, hk⟩
    exact hviolation.1 hfailed
  · intro h
    obtain ⟨hc, hk⟩ := mem_ofSchema_additionalProperties_iff.2 rfl
    exact ⟨_, List.mem_filter.2 ⟨hc, rfl⟩, hk, hviolation.2 h⟩

/-- The arrays that are reported to have additional items. -/
theorem reports_additionalItems_iff {items : List Json} :
    (∃ violation, Reports (schema.withMember "additionalItems" (.bool false)) "additionalItems"
        (.arr items) violation) ↔
      ∃ tuple, schema.get? "items" = some (.arr tuple) ∧ tuple.length < items.length := by
  have hfailed {allowed : Nat} :
      (∃ violation vs, (additionalItems allowed).judge (.arr items) = .failed vs ∧
        violation ∈ vs) ↔ allowed < items.length := by
    rw [judge, Verdict.require]
    rcases Nat.lt_or_ge allowed items.length with h | h
    · simp [Nat.not_le.2 h, h]
    · simp [h, Nat.not_lt.2 h]
  constructor
  · rintro ⟨violation, c, hc, hk, hv⟩
    obtain ⟨tuple, htuple, rfl⟩ :=
      mem_ofSchema_additionalItems_iff.1 ⟨(List.mem_filter.1 hc).1, hk⟩
    exact ⟨tuple, htuple, hfailed.1 ⟨violation, hv⟩⟩
  · rintro ⟨tuple, htuple, hlt⟩
    obtain ⟨hc, hk⟩ := mem_ofSchema_additionalItems_iff.2 ⟨tuple, htuple, rfl⟩
    obtain ⟨violation, hv⟩ := hfailed.2 hlt
    exact ⟨violation, _, List.mem_filter.2 ⟨hc, rfl⟩, hk, hv⟩

end Constraint

namespace Routing

open Constraint

variable {schema : Json} {fits : String → String → Bool} {name : String}

/-! ## Where additional children are routed to -/

theorem isSome_get?_iff_mem_namesOf {value : Option Json} :
    (value.bind fun v => v.get? name).isSome ↔ name ∈ namesOf value := by
  cases value with
  | none => simp [namesOf]
  | some v => exact Json.isSome_get?_iff

/-- **Names that are not listed have no schemas of their own**, and names that are listed do. -/
theorem listedTargets_eq_nil_iff :
    listedTargets fits schema name = [] ↔
      isListed fits (namesOf (schema.get? "properties")) (namesOf (schema.get? "patternProperties"))
        name = false := by
  have hpatterns : (((schema.get? "patternProperties").map Json.members).getD []).map Prod.fst =
      namesOf (schema.get? "patternProperties") := by
    cases schema.get? "patternProperties" <;> rfl
  have hown (own : Target) {condition : Bool} :
      (if condition then [own] else []) = [] ↔ ¬ condition := by
    cases condition <;> simp
  rw [listedTargets, isListed, List.append_eq_nil_iff, hown, Bool.or_eq_false_iff,
    List.map_eq_nil_iff, hpatterns, List.filter_eq_nil_iff, List.any_eq_false, ← Bool.not_eq_true,
    List.contains_iff_mem, ← isSome_get?_iff_mem_namesOf]

theorem below_keyword_notMem_listedTargets {keyword : List Char} :
    .below [keyword] ∉ listedTargets fits schema name := by
  simp only [listedTargets, List.mem_append, List.mem_map, not_or]
  constructor
  · split <;> simp
  · simp

/-- The names that are routed to additional properties. -/
theorem additional_mem_memberTargets_iff :
    .below ["additionalProperties".toList] ∈ memberTargets fits schema name ↔
      listedTargets fits schema name = [] ∧ hasSchema schema "additionalProperties" := by
  simp only [memberTargets]
  split
  · rename_i h
    rw [Bool.and_eq_true, List.isEmpty_iff] at h
    exact iff_of_true (List.mem_singleton_self _) h
  · rename_i h
    rw [Bool.and_eq_true, List.isEmpty_iff] at h
    exact iff_of_false below_keyword_notMem_listedTargets h

/-- The positions that are routed to additional items. -/
theorem additional_mem_itemTargets_iff {i : Nat} :
    .below ["additionalItems".toList] ∈ itemTargets schema i ↔
      ∃ tuple, schema.get? "items" = some (.arr tuple) ∧ tuple.length ≤ i ∧
        hasSchema schema "additionalItems" := by
  unfold itemTargets
  split
  · rename_i hobj
    simp [hobj]
  · rename_i tuple harr
    by_cases hlt : i < tuple.length
    · simp [harr, hlt, Nat.not_le.2 hlt]
    · by_cases hs : hasSchema schema "additionalItems" <;> simp [harr, hlt, hs, Nat.not_lt.1 hlt]
  · rename_i harr
    simpa using fun tuple htuple => absurd htuple (harr tuple)

theorem hasSchema_withMember (keyword : String) (inner : List (String × Json)) :
    hasSchema (schema.withMember keyword (.obj inner)) keyword := by
  rw [hasSchema, Json.get?_withMember, if_pos rfl]
  rfl

/-! ## Both agree -/

/-- A name is left over by a constraint exactly if it is routed to additional properties. -/
theorem mem_extraNames_iff_routed (schema : Json) (inner members : List (String × Json)) :
    name ∈ extraNames fits (namesOf (schema.get? "properties"))
        (namesOf (schema.get? "patternProperties")) members ↔
      name ∈ members.map Prod.fst ∧ .below ["additionalProperties".toList] ∈
        memberTargets fits (schema.withMember "additionalProperties" (.obj inner)) name := by
  have hget {keyword : String} (hne : keyword ≠ "additionalProperties") :
      (schema.withMember "additionalProperties" (.obj inner)).get? keyword = schema.get? keyword :=
    (Json.get?_withMember ..).trans (if_neg hne)
  rw [mem_extraNames_iff, additional_mem_memberTargets_iff, listedTargets_eq_nil_iff,
    hget (by decide), hget (by decide), and_iff_left (hasSchema_withMember _ inner)]

/-- An array is longer than a tuple exactly if an item of it is routed to additional items. -/
theorem exists_longer_iff_routed (schema : Json) (inner : List (String × Json))
    (items : List Json) :
    (∃ tuple, schema.get? "items" = some (.arr tuple) ∧ tuple.length < items.length) ↔
      ∃ i < items.length, .below ["additionalItems".toList] ∈
        itemTargets (schema.withMember "additionalItems" (.obj inner)) i := by
  have hget : (schema.withMember "additionalItems" (.obj inner)).get? "items" =
      schema.get? "items" := (Json.get?_withMember ..).trans (if_neg (by decide))
  simp only [additional_mem_itemTargets_iff, hget]
  constructor
  · rintro ⟨tuple, htuple, hlt⟩
    exact ⟨tuple.length, hlt, tuple, htuple, le_rfl, hasSchema_withMember _ inner⟩
  · rintro ⟨i, hi, tuple, htuple, hle, -⟩
    exact ⟨tuple, htuple, hle.trans_lt hi⟩

theorem itemTargets_eq_nil_of_none (h : of .array schema = .none) (i : Nat) :
    itemTargets schema i = [] := by
  have hitems : schema.get? "items" = .none := by
    by_contra hne
    rw [of, if_pos (Option.isSome_iff_ne_none.2 hne)] at h
    cases h
  rw [itemTargets, hitems]

theorem memberTargets_eq_nil_of_none (h : of .object schema = .none)
    (fits : String → String → Bool) (name : String) : memberTargets fits schema name = [] := by
  obtain ⟨⟨hproperties, hpatterns⟩, hadditional⟩ :
      (schema.get? "properties" = .none ∧ schema.get? "patternProperties" = .none) ∧
        hasSchema schema "additionalProperties" = false := by
    rw [of] at h
    split at h
    · cases h
    · rename_i hnone
      simpa only [Bool.not_eq_true, Bool.or_eq_false_iff, Option.isSome_eq_false_iff,
        Option.isNone_iff_eq_none] using hnone
  have hlisted : listedTargets fits schema name = [] := by
    rw [listedTargets_eq_nil_iff, hproperties, hpatterns]
    rfl
  simp only [memberTargets, hlisted, hadditional, Bool.and_false, Bool.false_eq_true, if_false]

/-- **What is forbidden by `false` is what would be routed to a schema.** Whatever it means that a
name fits a pattern, the constraint on additional properties leaves over the names of an object that
are routed to additional properties if their keyword has a schema for a value; these are the ones
that are reported. An array is reported for its additional items exactly if an item of it is routed
to them. If a schema is said not to speak of the children of a value, none of them is routed. -/
theorem forbidden_iff_routed (schema : Json) (inner : List (String × Json)) :
    (∀ fits names patterns, .additionalProperties names patterns ∈
        ofSchema (schema.withMember "additionalProperties" (.bool false)) →
      ∀ members name, name ∈ extraNames fits names patterns members ↔
        name ∈ members.map Prod.fst ∧ .below ["additionalProperties".toList] ∈
          memberTargets fits (schema.withMember "additionalProperties" (.obj inner)) name) ∧
    (∀ members name, Reports (schema.withMember "additionalProperties" (.bool false))
        "additionalProperties" (.obj members) (.extraProperty name) ↔
      name ∈ members.map Prod.fst ∧ .below ["additionalProperties".toList] ∈
        memberTargets Regex.finds (schema.withMember "additionalProperties" (.obj inner)) name) ∧
    (∀ items, (∃ violation, Reports (schema.withMember "additionalItems" (.bool false))
        "additionalItems" (.arr items) violation) ↔
      ∃ i < items.length, .below ["additionalItems".toList] ∈
        itemTargets (schema.withMember "additionalItems" (.obj inner)) i) ∧
    (of .array schema = .none → ∀ i, itemTargets schema i = []) ∧
    (of .object schema = .none → ∀ fits name, memberTargets fits schema name = []) := by
  refine ⟨fun fits names patterns hc members name => ?_, fun members name => ?_, fun items => ?_,
    itemTargets_eq_nil_of_none, memberTargets_eq_nil_of_none⟩
  · cases mem_ofSchema_additionalProperties_iff.1 ⟨hc, rfl⟩
    exact mem_extraNames_iff_routed schema inner members
  · rw [reports_additionalProperties_iff, mem_extraNames_iff_routed schema inner members]
  · rw [reports_additionalItems_iff, exists_longer_iff_routed schema inner items]

/-- A name that fits a pattern is not additional, and another name is. -/
example :
    extraNames Regex.finds ["a"] ["^x"] [("a", .null), ("x1", .null), ("b", .null)] = ["b"] := by
  decide +kernel

end Routing

end JsonSchema
