import JsonSchema.Proofs.Alias
import JsonSchema.Proofs.Places
import Mathlib

/-!
# Bases inside documents

The base at a place of a document is the locator of the document, refined by the `id` of every
value on the way to the place. On the way to a schema that was checked, most of these values are
checked schemas themselves, or have no text as `id`; the tables of dependencies are neither.

* `Reference.scope_eq_foldl`: a base is refined along the values of a path, in order.
* `Registry.base_of_checked_place`: the base at a checked place of a registered document.
-/

namespace JsonSchema

namespace Reference

variable {base : Reference} {v w : Json}

theorem scope_eq_foldl {tokens : List (List Char)} (h : v.walk? tokens = some w)
    (base : Reference) :
    base.scope v tokens = (tokens.inits.filterMap v.walk?).foldl refine base := by
  induction tokens generalizing v base with
  | nil => rfl
  | cons token rest ih =>
    obtain ⟨next, hnext, hrest⟩ := Option.bind_eq_some_iff.1 h
    have hwalk : v.walk? ∘ (token :: ·) = next.walk? := by
      funext front
      rw [Function.comp_apply, Json.walk?, hnext]
      rfl
    rw [scope, hnext, List.inits_cons, List.filterMap_cons, List.filterMap_map, hwalk]
    exact ih hrest _

theorem refine_of_nameless (h : ∀ text, v.get? "id" ≠ some (.str text)) (base : Reference) :
    base.refine v = base := by
  unfold refine
  split
  · rename_i text hid
    exact absurd hid (h text)
  · rfl

/-- Values without a text as `id` do not contribute to a base. -/
theorem foldl_refine_filter {α : Type} {keep : α → Bool} {value? : α → Option Json}
    {places : List α}
    (h : ∀ place ∈ places, ∀ v, value? place = some v →
      keep place ∨ ∀ text, v.get? "id" ≠ some (.str text)) (base : Reference) :
    ((places.filter keep).filterMap value?).foldl refine base =
      (places.filterMap value?).foldl refine base := by
  induction places generalizing base with
  | nil => rfl
  | cons place rest ih =>
    have hrest := ih fun p hp => h p (List.mem_cons_of_mem _ hp)
    cases hv : value? place with
    | none =>
      rw [List.filterMap_cons_none hv, List.filter_cons]
      split
      · rw [List.filterMap_cons_none hv, hrest]
      · exact hrest base
    | some v =>
      rw [List.filterMap_cons_some hv, List.foldl_cons, List.filter_cons]
      by_cases hk : keep place = true
      · rw [if_pos hk, List.filterMap_cons_some hv, List.foldl_cons, hrest]
      · have hnameless := (h place List.mem_cons_self v hv).resolve_left hk
        rw [if_neg hk, refine_of_nameless hnameless, hrest]

end Reference

/-- The pointers to the places on the way to the place of a pointer, from the root down, itself
included. -/
def Pointer.enclosing (pointer : List Char) : List (List Char) :=
  ((Pointer.tokens? pointer).getD []).inits.map fun front => front.foldl Pointer.child []

namespace Vocabulary

/-- The values on the way to a place that count for references at the place, from the root down. -/
def counting (voc : Vocabulary) (document : Json) (pointer : List Char) : List Json :=
  ((Pointer.enclosing pointer).filter (voc.counts document)).filterMap document.at?

end Vocabulary

namespace Registry

variable {g : Registry} {locator : Reference} {document v : Json} {pointer : List Char}

/-- **The base at a checked place of a document without scheme** is the locator of the document,
refined by the checked schemas on the way to the place and their tables of dependencies. -/
theorem base_of_checked_place {text : String} (hl : Reference.parse text = .ok locator)
    (hs : locator.scheme = none) (hv : g.vocabulary = .standard) (hw : document.WellFormed)
    (hreg : (g.register locator document).1 = .ok ())
    (hp : (pointer, v) ∈ Vocabulary.standard.positions document) :
    ∃ s, ((g.register locator document).2.getSchema (locator.withPointer pointer)).1 = .ok s ∧
      s.raw = v ∧
      s.base = (Vocabulary.standard.counting document pointer).foldl Reference.refine
        locator.toLocator := by
  have hln := Reference.isNormal_of_parse hl
  have hstable := Reference.isStable_toLocator_of_relative hln hs
  have ha : Vocabulary.standard.accepts document := hv ▸ accepts_of_register hreg
  obtain ⟨tokens, rfl, hwalk⟩ :=
    Vocabulary.exists_walk ha hw (Vocabulary.root_mem_positions _ _) hp
  have htokens : Pointer.tokens? (tokens.foldl Pointer.child []) = some tokens :=
    Pointer.tokens?_foldl_child (rfl : Pointer.tokens? [] = some []) tokens
  have hat (front : List (List Char)) :
      document.at? (front.foldl Pointer.child []) = document.walk? front :=
    Json.at?_foldl_child (Json.at?_nil document) front
  have hget := getSchema_withPointer hstable (cached?_register_self hreg)
    ((hat tokens).trans hwalk.leads)
  rw [Reference.withPointer_toLocator_of_relative hln hs] at hget
  refine ⟨_, congrArg Prod.fst hget,
    SchemaNode.raw_of_at? _ ((hat tokens).trans hwalk.leads), ?_⟩
  calc (SchemaNode.of locator.toLocator document (tokens.foldl Pointer.child [])).base
    _ = locator.toLocator.scope document tokens := by rw [SchemaNode.of, htokens]; rfl
    _ = (tokens.inits.filterMap document.walk?).foldl Reference.refine locator.toLocator :=
      Reference.scope_eq_foldl hwalk.leads _
    _ = ((tokens.inits.filter fun front =>
          Vocabulary.standard.counts document (front.foldl Pointer.child [])).filterMap
            document.walk?).foldl Reference.refine locator.toLocator :=
      (Reference.foldl_refine_filter (fun front hfront w hfw =>
        hwalk.counts front w ((List.mem_inits _ _).1 hfront) hfw) _).symm
    _ = _ := by
      rw [Vocabulary.counting, Pointer.enclosing, htokens, Option.getD_some, List.filter_map,
        List.filterMap_map]
      congr 2
      funext front
      exact (hat front).symm

/-- A document with a definition that is called `id`. -/
def withDefinition : Json :=
  .obj [("id", .str "a/"), ("definitions", .obj [("id", .obj [("id", .str "b")])])]

theorem base_of_definition :
    ∃ s, ((single withDefinition).2.getSchema
        (Reference.empty.withPointer "/definitions/id".toList)).1 = .ok s ∧
      s.raw = .obj [("id", .str "b")] ∧
      s.base = ⟨⟨none, none, "a/b".toList, none, none⟩⟩ := by
  have hparse : Reference.parse "" = .ok .empty := by cbv
  have hregister : (single withDefinition).1 = .ok () := by cbv
  have hplace : ("/definitions/id".toList, .obj [("id", .str "b")]) ∈
      Vocabulary.standard.positions withDefinition := by
    have hpositions : Vocabulary.standard.positions withDefinition =
        [([], withDefinition), ("/definitions/id".toList, .obj [("id", .str "b")])] := by
      cbv
    rw [hpositions]
    exact List.mem_cons_of_mem _ List.mem_cons_self
  have hwf : withDefinition.WellFormed := by
    simp [withDefinition, Json.WellFormed, Json.WellFormedMembers]
  obtain ⟨s, hs, hraw, hbase⟩ := base_of_checked_place hparse rfl rfl hwf hregister hplace
  refine ⟨s, hs, hraw, hbase.trans ?_⟩
  cbv

/-- A document in which a property called `id` depends on another one. -/
def withDependency : Json :=
  .obj [("dependencies", .obj [("id", .str "foo"), ("x", .obj [])])]

/-- **A dependency of a property called `id` counts as an `id`**: the base below it is not the one
that the checked schemas give. -/
theorem base_of_dependency :
    (single withDependency).1 = .ok () ∧
      ("/dependencies/x".toList, .obj []) ∈ Vocabulary.standard.positions withDependency ∧
      ∃ s, ((single withDependency).2.getSchema
          (Reference.empty.withPointer "/dependencies/x".toList)).1 = .ok s ∧
        s.base ≠ (((Pointer.enclosing "/dependencies/x".toList).filter
          (Vocabulary.standard.places withDependency).contains).filterMap
            withDependency.at?).foldl Reference.refine .empty := by
  have hpositions : Vocabulary.standard.positions withDependency =
      [([], withDependency), ("/dependencies/x".toList, .obj [])] := by
    cbv
  have hbase : ((single withDependency).2.getSchema
      (Reference.empty.withPointer "/dependencies/x".toList)).1.map (·.base) =
        .ok ⟨⟨none, none, "foo".toList, none, none⟩⟩ := by
    cbv
  have hchecked : (((Pointer.enclosing "/dependencies/x".toList).filter
      (Vocabulary.standard.places withDependency).contains).filterMap
        withDependency.at?).foldl Reference.refine .empty = .empty := by
    cbv
  obtain ⟨s, hs, hsbase⟩ := Uri.map_eq_ok_iff.1 hbase
  refine ⟨by cbv, ?_, s, hs, ?_⟩
  · rw [hpositions]
    exact List.mem_cons_of_mem _ List.mem_cons_self
  · rw [hchecked, hsbase]
    decide

end Registry

end JsonSchema
