import JsonSchema.Proofs.Address
import JsonSchema.Proofs.Pointer
import JsonSchema.Proofs.Vocabulary
import Mathlib

/-!
# Where checked places lie

A rule has schemas checked that lie below the value of its keyword, at most one name deep, so a
check walks down the document as a pointer does. Between a schema and one that is nested in it,
there is at most one value that is checked as no schema, a table of schemas.

* `Rule.Descends`: what one rule does with the value of its keyword.
* `Vocabulary.descends_of_mem_standard`: the standard rules do so.
* `Vocabulary.Walk`: tokens that lead from schema to schema.
* `Vocabulary.exists_walk`: a whole check, from the root to a place.
-/

namespace JsonSchema

namespace Json

variable {v w : Json} {members : List (String × Json)} {items : List Json} {name : String}
  {token : List Char} {tokens : List (List Char)}

/-! ## Well-formed documents -/

theorem lookup_of_mem (h : (members.map Prod.fst).Nodup) (hm : (name, v) ∈ members) :
    lookup name members = some v := by
  induction members with
  | nil => cases hm
  | cons member rest ih =>
    obtain ⟨key, value⟩ := member
    rw [List.map_cons, List.nodup_cons] at h
    rcases List.mem_cons.1 hm with he | hm
    · cases he
      rw [lookup, if_pos rfl]
    · have hname : name ∈ rest.map Prod.fst := List.mem_map.2 ⟨_, hm, rfl⟩
      rw [lookup, if_neg fun he : key = name => h.1 (he ▸ hname), ih h.2 hm]

theorem wellFormed_of_mem_members (h : WellFormedMembers members) (hm : (name, v) ∈ members) :
    v.WellFormed := by
  induction members with
  | nil => cases hm
  | cons member rest ih =>
    obtain ⟨key, value⟩ := member
    rcases List.mem_cons.1 hm with he | hm
    · cases he
      exact h.1
    · exact ih h.2 hm

theorem wellFormed_of_mem_items (h : WellFormedItems items) (hm : v ∈ items) : v.WellFormed := by
  induction items with
  | nil => cases hm
  | cons item rest ih =>
    rcases List.mem_cons.1 hm with rfl | hm
    · exact h.1
    · exact ih h.2 hm

theorem WellFormed.below? (h : v.WellFormed) (hw : v.below? token = some w) : w.WellFormed := by
  cases v with
  | obj members => exact wellFormed_of_mem_members h.2 (mem_of_lookup hw)
  | arr items =>
    obtain ⟨i, -, hi⟩ := Option.bind_eq_some_iff.1 hw
    exact wellFormed_of_mem_items h (List.mem_of_getElem? hi)
  | _ => cases hw

theorem WellFormed.get?_of_mem (h : v.WellFormed) (hm : (name, w) ∈ v.members) :
    v.get? name = some w := by
  cases v with
  | obj members => exact lookup_of_mem h.1 hm
  | _ => cases hm

theorem below?_toList (v : Json) (name : String) (h : v.get? name = some w) :
    v.below? name.toList = some w := by
  cases v with
  | obj members => rwa [below?, String.ofList_toList]
  | _ => cases h

end Json

/-! ## Indices -/

theorem eq_zero_of_head?_toDigits {n : Nat} (h : (Nat.toDigits 10 n).head? = some '0') : n = 0 := by
  induction n using Nat.strongRecOn with
  | ind n ih =>
    rw [Nat.toDigits_eq_if (by decide)] at h
    split at h
    · rename_i hn
      have hall : ∀ d < 10, d.digitChar = '0' → d = 0 := by decide
      exact hall n hn (Option.some.inj h)
    · rename_i hn
      rw [List.head?_append_of_ne_nil _ Nat.toDigits_ne_nil] at h
      have := ih (n / 10) (by omega) h
      omega

/-- The index that its digits write. -/
theorem Pointer.index?_toDigits (i : Nat) : index? (Nat.toDigits 10 i) = some i := by
  rw [index?, if_neg, decimal?_toDigits]
  rintro ⟨hzero, hlength⟩
  rw [eq_zero_of_head?_toDigits hzero] at hlength
  exact hlength rfl

theorem Json.below?_toDigits {items : List Json} {i : Nat} (h : i < items.length) :
    (Json.arr items).below? (Nat.toDigits 10 i) = some items[i] := by
  rw [Json.below?, Pointer.index?_toDigits, Option.bind_some, List.getElem?_eq_getElem h]

/-! ## Rules -/

namespace Rule

/-- The schemas that a rule has checked are the value of its keyword or lie directly below it.
Where they do, a text below the value is checked, too, if it is called `id`; the rule for
dependencies is the one that leaves out texts. -/
structure Descends (keyword : String) (rule : Rule) : Prop where
  below : ∀ {value members tokens nested}, value.WellFormed →
    .nested tokens nested ∈ (rule.run value members).steps →
    tokens = [] ∧ nested = value ∨
      ∃ token, tokens = [token] ∧ value.below? token = some nested
  checks : keyword ≠ "dependencies" → ∀ {value members token nested text},
    .nested [token] nested ∈ (rule.run value members).steps →
    value.get? "id" = some (.str text) →
    .nested ["id".toList] (.str text) ∈ (rule.run value members).steps

variable {keyword : String} {rule : Rule}

/-- A rule that complains only. -/
theorem descends_of_reports
    (h : ∀ value members tokens nested, .nested tokens nested ∉ (rule.run value members).steps) :
    Descends keyword rule :=
  ⟨fun _ hs => absurd hs (h _ _ _ _), fun _ _ _ _ _ _ hs => absurd hs (h _ _ _ _)⟩

theorem descends_typed (expected : List NodeType)
    (complaints : Json → List (String × Json) → List Complaint) :
    Descends keyword (typed expected complaints) := by
  refine descends_of_reports fun value members tokens nested => ?_
  unfold typed
  simp only
  split <;> simp [mismatch]

theorem descends_size : Descends keyword size :=
  descends_of_reports fun value members tokens nested => by simp [size]

theorem descends_leastSize (own upper : String) : Descends keyword (leastSize own upper) :=
  descends_of_reports fun value members tokens nested => by simp [leastSize]

theorem descends_schemaMap : Descends keyword schemaMap where
  below {value members tokens nested} hw hs := by
    cases value with
    | obj ms =>
      obtain ⟨⟨name, v⟩, hm, he⟩ := List.mem_map.1 hs
      cases he
      exact .inr ⟨_, rfl, Json.below?_toList _ _ (hw.get?_of_mem hm)⟩
    | _ => simp [schemaMap, mismatch] at hs
  checks _ {value members token nested text} hs hid := by
    cases value with
    | obj ms => exact List.mem_map.2 ⟨("id", .str text), Json.mem_of_lookup hid, rfl⟩
    | _ => cases hid

theorem descends_patternMap : Descends keyword patternMap where
  below {value members tokens nested} hw hs := by
    cases value with
    | obj ms =>
      obtain ⟨⟨name, v⟩, hm, he⟩ := List.mem_flatMap.1 hs
      rcases List.mem_append.1 he with he | he
      · simp at he
      · cases List.mem_singleton.1 he
        exact .inr ⟨_, rfl, Json.below?_toList _ _ (hw.get?_of_mem hm)⟩
    | _ => simp [patternMap, mismatch] at hs
  checks _ {value members token nested text} hs hid := by
    cases value with
    | obj ms =>
      refine List.mem_flatMap.2 ⟨("id", .str text), Json.mem_of_lookup hid, ?_⟩
      exact List.mem_append_right _ (List.mem_singleton_self _)
    | _ => cases hid

theorem descends_boolOrSchema : Descends keyword boolOrSchema where
  below {value members tokens nested} hw hs := by
    cases value with
    | obj ms =>
      cases List.mem_singleton.1 hs
      exact .inl ⟨rfl, rfl⟩
    | _ => simp [boolOrSchema, mismatch] at hs
  checks _ {value members token nested text} hs hid := by
    cases value with
    | obj ms => cases List.mem_singleton.1 hs
    | _ => cases hid

theorem below?_of_mem_nestedItems {items : List Json} {tokens : List (List Char)} {nested : Json}
    (h : .nested tokens nested ∈ nestedItems items) :
    ∃ token, tokens = [token] ∧ (Json.arr items).below? token = some nested := by
  obtain ⟨i, hi, he⟩ := List.mem_mapIdx.1 h
  cases he
  exact ⟨_, rfl, Json.below?_toDigits hi⟩

theorem descends_schemaOrList : Descends keyword schemaOrList where
  below {value members tokens nested} hw hs := by
    cases value with
    | obj ms =>
      cases List.mem_singleton.1 hs
      exact .inl ⟨rfl, rfl⟩
    | arr items => exact .inr (below?_of_mem_nestedItems hs)
    | _ => simp [schemaOrList, mismatch] at hs
  checks _ {value members token nested text} hs hid := by
    cases value with
    | obj ms => cases List.mem_singleton.1 hs
    | _ => cases hid

theorem descends_typeUnion : Descends keyword typeUnion where
  below {value members tokens nested} hw hs := by
    cases value with
    | arr items =>
      refine .inr ?_
      simp only [typeUnion, List.mem_append] at hs
      rcases hs with hs | hs | hs
      · split at hs <;> simp at hs
      · obtain ⟨steps, hsteps, hs⟩ := List.mem_flatten.1 hs
        obtain ⟨i, hi, rfl⟩ := List.mem_mapIdx.1 hsteps
        cases hv : items[i] with
        | obj ms =>
          rw [hv] at hs
          cases List.mem_singleton.1 hs
          exact ⟨_, rfl, hv ▸ Json.below?_toDigits hi⟩
        | _ =>
          rw [hv] at hs
          simp [unionElement] at hs
      · split at hs <;> simp at hs
    | _ => simp [typeUnion, mismatch] at hs
  checks _ {value members token nested text} hs hid := by
    cases value with
    | obj ms => simp [typeUnion, mismatch] at hs
    | _ => cases hid

theorem descends_dependencies : Descends "dependencies" dependencies where
  below {value members tokens nested} hw hs := by
    cases value with
    | obj ms =>
      obtain ⟨⟨name, v⟩, hm, he⟩ := List.mem_flatMap.1 hs
      cases v with
      | obj inner =>
        cases List.mem_singleton.1 he
        exact .inr ⟨_, rfl, Json.below?_toList _ _ (hw.get?_of_mem hm)⟩
      | arr items =>
        simp only [dependency] at he
        split at he <;> simp at he
      | _ => simp [dependency] at he
    | _ => simp [dependencies, mismatch] at hs
  checks h := absurd rfl h

end Rule

namespace Vocabulary

variable {keyword : String} {rule : Rule}

theorem mem_rules_of_rule? {voc : Vocabulary} {keyword : String} {rule : Rule}
    (h : voc.rule? keyword = some rule) : (keyword, rule) ∈ voc.rules := by
  obtain ⟨before, after, he, -⟩ := List.lookup_eq_some_iff.1 h
  rw [he]
  exact List.mem_append_right _ List.mem_cons_self

/-- **The schemas that the standard rules have checked lie below their keywords.** -/
theorem descends_of_mem_standard {keyword : String} {rule : Rule}
    (h : (keyword, rule) ∈ standard.rules) : rule.Descends keyword := by
  simp only [standard, List.mem_cons, Prod.mk.injEq, List.not_mem_nil] at h
  -- One case for each keyword of the table.
  repeat' rcases h with ⟨rfl, rfl⟩ | h
  all_goals
    first
    | exact Rule.descends_typed _ _
    | exact Rule.descends_schemaMap
    | exact Rule.descends_patternMap
    | exact Rule.descends_boolOrSchema
    | exact Rule.descends_schemaOrList
    | exact Rule.descends_typeUnion
    | exact Rule.descends_dependencies
    | exact Rule.descends_leastSize _ _
    | exact Rule.descends_size

variable {document schema v nested value : Json} {pointer place below : List Char}
  {tokens : List (List Char)}

/-! ## Steps of a check -/

/-- What a check visits from a visited place, it visits. -/
theorem mem_positionsFrom_trans {voc : Vocabulary} {place' : List Char} {v' : Json}
    (h : (place, v) ∈ voc.positionsFrom pointer schema)
    (h' : (place', v') ∈ voc.positionsFrom place v) :
    (place', v') ∈ voc.positionsFrom pointer schema := by
  induction h using positionsFrom_induction with
  | here => exact h'
  | above hn _ ih => exact mem_positionsFrom_iff.2 (.inr ⟨_, _, hn, ih⟩)

theorem Nests.mem_positions {voc : Vocabulary} (h : (pointer, schema) ∈ voc.positions document)
    (hn : voc.Nests pointer schema below nested) : (below, nested) ∈ voc.positions document :=
  mem_positionsFrom_trans h
    (mem_positionsFrom_iff.2 (.inr ⟨below, nested, hn, mem_positionsFrom_iff.2 (.inl rfl)⟩))

/-- A check of an accepted document visits no texts. -/
theorem str_notMem_positions {voc : Vocabulary} {text : String} (ha : voc.accepts document) :
    (place, .str text) ∉ voc.positions document := fun hp => by
  cases isObject_of_mem_positions ha hp

/-- The pointers to the places that a check of a document visits. -/
def places (voc : Vocabulary) (document : Json) : List (List Char) :=
  (voc.positions document).map Prod.fst

/-- The value at a place counts for references below it: a check visits it as a schema, or it is
the table of dependencies of a visited schema. -/
def counts (voc : Vocabulary) (document : Json) (pointer : List Char) : Bool :=
  (voc.places document).any fun place =>
    pointer = place || pointer = Pointer.child place "dependencies".toList

theorem counts_of_mem {voc : Vocabulary} (h : (pointer, v) ∈ voc.positions document) :
    voc.counts document pointer :=
  List.any_eq_true.2 ⟨pointer, List.mem_map.2 ⟨_, h, rfl⟩, by simp⟩

theorem counts_dependencies {voc : Vocabulary} (h : (pointer, v) ∈ voc.positions document) :
    voc.counts document (Pointer.child pointer "dependencies".toList) :=
  List.any_eq_true.2 ⟨pointer, List.mem_map.2 ⟨_, h, rfl⟩, by simp⟩

/-- A value that does not count has no text as `id`. -/
def CountsOrNameless (document : Json) (pointer : List Char) (v : Json) : Prop :=
  standard.counts document pointer ∨ ∀ text, v.get? "id" ≠ some (.str text)

/-! ## Whole checks -/

/-- Tokens lead from a value at a place down to another value, and the values on the way that do
not count have no text as `id`. -/
structure Walk (document : Json) (pointer : List Char) (schema : Json) (tokens : List (List Char))
    (v : Json) : Prop where
  leads : schema.walk? tokens = some v
  counts : ∀ front w, front <+: tokens → schema.walk? front = some w →
    CountsOrNameless document (front.foldl Pointer.child pointer) w

namespace Walk

theorem nil (h : CountsOrNameless document pointer v) : Walk document pointer v [] v where
  leads := rfl
  counts front w hfront hw := by
    rw [List.prefix_nil.1 hfront] at hw ⊢
    cases hw
    exact h

theorem cons {token : List Char} {next : Json} (h : CountsOrNameless document pointer schema)
    (hnext : schema.below? token = some next)
    (hwalk : Walk document (Pointer.child pointer token) next tokens v) :
    Walk document pointer schema (token :: tokens) v where
  leads := by
    rw [Json.walk?, hnext]
    exact hwalk.leads
  counts front w hfront hw := by
    rcases List.prefix_cons_iff.1 hfront with rfl | ⟨rest, rfl, hrest⟩
    · cases hw
      exact h
    · rw [Json.walk?, hnext] at hw
      exact hwalk.counts rest w hrest hw

end Walk

/-- **A check goes down from schema to schema**, and the values that it passes over count or have
no text as `id`. -/
theorem exists_walk (ha : standard.accepts document) (hw : schema.WellFormed)
    (hroot : (pointer, schema) ∈ standard.positions document)
    (h : (place, v) ∈ standard.positionsFrom pointer schema) :
    ∃ tokens, place = tokens.foldl Pointer.child pointer ∧
      Walk document pointer schema tokens v := by
  induction h using positionsFrom_induction with
  | here => exact ⟨[], rfl, .nil (.inl (counts_of_mem hroot))⟩
  | @above pointer schema _ nested hnests _ ih =>
    have hbelow := hnests.mem_positions hroot
    obtain ⟨keyword, value, rule, steps, hm, hr, hs, rfl⟩ := hnests
    have hdescends := descends_of_mem_standard (mem_rules_of_rule? hr)
    have hvalue := Json.below?_toList schema keyword (hw.get?_of_mem hm)
    have hvalue_wf := hw.below? hvalue
    have hcounts : CountsOrNameless document pointer schema := .inl (counts_of_mem hroot)
    rcases hdescends.below hvalue_wf hs with ⟨rfl, rfl⟩ | ⟨token, rfl, htoken⟩
    · obtain ⟨tokens, rfl, hwalk⟩ := ih hvalue_wf hbelow
      exact ⟨keyword.toList :: tokens, rfl, .cons hcounts hvalue hwalk⟩
    · obtain ⟨tokens, rfl, hwalk⟩ := ih (hvalue_wf.below? htoken) hbelow
      refine ⟨keyword.toList :: token :: tokens, rfl,
        .cons hcounts hvalue (.cons ?_ htoken hwalk)⟩
      -- The value of the keyword is a table of schemas, and a text in it is visited as they are.
      by_cases hk : keyword = "dependencies"
      · rw [hk]
        exact .inl (counts_dependencies hroot)
      · refine .inr fun text hid => ?_
        have hnests : standard.Nests pointer schema _ (.str text) :=
          ⟨keyword, value, rule, _, hm, hr, hdescends.checks hk hs hid, rfl⟩
        exact str_notMem_positions ha (hnests.mem_positions hroot)

end Vocabulary

end JsonSchema
