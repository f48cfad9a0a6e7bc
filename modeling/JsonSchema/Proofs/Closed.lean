import JsonSchema.Proofs.Anchors
import JsonSchema.Proofs.Remainder
import JsonSchema.Proofs.Scope
import JsonSchema.Proofs.Targets
import Mathlib

/-!
# Closed documents

A document is closed if every reference in it is a fragment that addresses a value of the document,
and nothing below its root has an `id`. An evaluation of a closed document never leaves it, as long
as the root `id` names a base that anchors references; an opaque `id` does not.

* `Json.Closed`: closed documents.
* `Registry.IsView`: a locator under which a document is kept, and the base that it gives.
* `Registry.find_of_closed`: one look-up stays within the document.
* `Registry.validateRoot_ne_unresolved`: a validation against a closed document finds all schemas.
-/

namespace JsonSchema

/-- A value is the text of a fragment that addresses a value of a document. -/
def Json.RefersInto (value d : Json) : Prop :=
  ∃ fragment r, value = .str (String.ofList ('#' :: fragment)) ∧
    Reference.parse (String.ofList ('#' :: fragment)) = .ok r ∧
    (d.at? (Percent.decode fragment)).isSome

/-- Every reference of a document addresses a value of the document, and no value below the root
has an `id`. -/
structure Json.Closed (d : Json) : Prop where
  refs : d.Every fun name value => name = "$ref" → value.RefersInto d
  nameless : ∀ token v, d.below? token = some v → v.Every fun name _ => name ≠ "id"

namespace Reference

variable {d v : Json} {base : Reference}

theorem refine_of_get?_eq_none (h : v.get? "id" = none) (base : Reference) :
    base.refine v = base :=
  refine_of_nameless (fun text hid => by rw [h] at hid; cases hid) base

theorem get?_id_of_every (h : v.Every fun name _ => name ≠ "id") : v.get? "id" = none := by
  cases hv : v.get? "id" with
  | none => rfl
  | some w =>
    cases v with
    | obj members => exact absurd rfl (h.of_mem (Json.mem_of_lookup hv))
    | _ => cases hv

theorem scope_of_every (h : v.Every fun name _ => name ≠ "id") (base : Reference)
    (tokens : List (List Char)) : base.scope v tokens = base := by
  induction tokens generalizing v with
  | nil => exact refine_of_get?_eq_none (get?_id_of_every h) base
  | cons token rest ih =>
    rw [scope, refine_of_get?_eq_none (get?_id_of_every h)]
    cases hv : v.below? token with
    | none => rfl
    | some next => exact ih (h.below? hv)

/-- The base is the same all over a document with no `id` below its root. -/
theorem scope_of_closed (h : d.Closed) (base : Reference) (tokens : List (List Char)) :
    base.scope d tokens = base.refine d := by
  cases tokens with
  | nil => rfl
  | cons token rest =>
    rw [scope]
    cases hv : d.below? token with
    | none => rfl
    | some next => exact scope_of_every (h.nameless token next hv) _ rest

end Reference

/-- Whatever an evaluation ends with, it found all schemas. -/
def Validation.FoundAll : Validation.Fault → Prop
  | .unresolved _ => False
  | _ => True

namespace Registry

open Validation

variable {g : Registry} {d value : Json} {base n r : Reference} {fragment : List Char}

/-! ## Views of a document -/

/-- A document is kept for a locator, and gives the base `base` seen from there. -/
structure IsView (g : Registry) (d : Json) (base n : Reference) : Prop where
  stable : n.IsStable
  kept : g.cached? n = some (.ok d)
  base : n.refine d = base

/-- A reference into a kept document gives the node that it addresses. -/
theorem getSchema_of_leadsTo (hn : g.cached? n = some (.ok d)) (hr : r.LeadsTo n fragment)
    (hp : (d.at? (Percent.decode fragment)).isSome) :
    g.getSchema r = (.ok (.of n d (Percent.decode fragment)), g) := by
  obtain ⟨v, hv⟩ := Option.isSome_iff_exists.1 hp
  rw [getSchema, hr.toLocator, document_of_cached? hn]
  simp only [Except.bind, nodeOf, hr.fragment, locate?_of_at? hv, hr.toLocator]

/-- A base leads fragments to a locator under which the document is kept. -/
structure Settles (g : Registry) (d : Json) (base : Reference) : Prop where
  view : g.IsView d base base.toLocator
  leads : ∀ {r fragment}, r.IsLocal fragment → (base.resolve r).LeadsTo base.toLocator fragment

/-- The nodes of a document, seen from its locators. -/
def IsNode (g : Registry) (d : Json) (base : Reference) (s : SchemaNode) : Prop :=
  ∃ n pointer, s = .of n d pointer ∧ g.IsView d base n ∧ (d.at? pointer).isSome

/-- **One look-up in a closed document stays in it.** -/
theorem find_of_closed (hc : d.Closed) (hb : g.Settles d base)
    {s : SchemaNode} (hs : g.IsNode d base s) {t : Target} (ht : s.raw.Holds t) :
    ∃ s', g.find s t = (.ok s', g) ∧ g.IsNode d base s' := by
  obtain ⟨n, pointer, rfl, hview, hp⟩ := hs
  obtain ⟨v, hv⟩ := Option.isSome_iff_exists.1 hp
  rw [SchemaNode.raw_of_at? n hv] at ht
  cases t with
  | below tokens =>
    have hat := Json.at?_foldl_child hv tokens
    obtain ⟨w, hw⟩ := Option.isSome_iff_exists.1 (ht : (v.walk? tokens).isSome)
    rw [hw] at hat
    exact ⟨_, getSchema_withPointer hview.stable hview.kept hat, n, _, rfl, hview,
      Option.isSome_iff_exists.2 ⟨w, hat⟩⟩
  | referenced value =>
    obtain ⟨tokens, -, hwalk⟩ := Option.bind_eq_some_iff.1 hv
    obtain ⟨fragment, r, rfl, hr, hat⟩ := (hc.refs.walk? hwalk).of_mem ht rfl
    have hbase : (SchemaNode.of n d pointer).base = base := by
      rw [SchemaNode.of, Reference.scope_of_closed hc, hview.base]
    have hlocate : (SchemaNode.of n d pointer).locate (.referenced
        (.str (String.ofList ('#' :: fragment)))) = .ok (base.resolve r) := by
      rw [SchemaNode.locate, Reference.ofJson, hr, hbase]
      rfl
    refine ⟨_, ?_, _, _, rfl, hb.view, hat⟩
    rw [Registry.find, hlocate]
    exact getSchema_of_leadsTo hb.view.kept (hb.leads (Reference.isLocal_of_parse hr)) hat

/-! ## Evaluations -/

/-- **An evaluation of a node of a closed document finds all schemas**, and leaves the registry as
it is. -/
theorem meets_visit_of_closed (hw : d.WellFormed) (hc : d.Closed) (hb : g.Settles d base)
    (depth : Nat) {active : List Pair} {s : SchemaNode} {m : Instance} (hs : g.IsNode d base s) :
    Evaluation.Meets (· = g) (visit depth active s m) (fun _ => True) FoundAll := by
  refine Evaluation.meets_visit_of_safe (P := fun p => g.IsNode d base p.1) trivial
    (fun _ _ _ => trivial) (fun _ _ _ _ => trivial) (fun {s n t n'} hp hl => ?_) depth hs
  have hwf : s.raw.WellFormed := by
    obtain ⟨_, pointer, rfl, -, hat⟩ := hp
    obtain ⟨v, hv⟩ := Option.isSome_iff_exists.1 hat
    obtain ⟨tokens, -, hwalk⟩ := Option.bind_eq_some_iff.1 hv
    rw [SchemaNode.raw_of_at? _ hv]
    exact hw.walk? hwalk
  obtain ⟨s', hfind, hs'⟩ := find_of_closed hc hb hp (hl.checks hwf).holds
  refine .find fun g' hg' => ?_
  obtain rfl : g' = g := hg'
  rw [hfind]
  exact ⟨rfl, hs'⟩

theorem validate_ne_unresolved (hw : d.WellFormed) (hc : d.Closed) (hb : g.Settles d base)
    (hn : g.IsView d base n) (cause : ResolveError) :
    (g.validate n value).1 ≠ .error (.unresolved cause) := by
  have hget := getSchema_of_isStable hn.stable hn.kept
  rw [validate_of_getSchema hget]
  intro h
  have hroot : g.IsNode d base (.of n d []) := ⟨n, [], rfl, hn, rfl⟩
  have hmeets := Evaluation.Meets.validate {}
    (meets_visit_of_closed (m := .root value) hw hc hb _ hroot) rfl
  rw [validate_eq_error_iff.1 h] at hmeets
  exact hmeets

/-! ## Root documents -/

/-- A root whose `id` leads from the nameless document to itself has no second locator. -/
theorem toLocator_of_secondLocator?_eq_none {id : String} (hid : d.get? "id" = some (.str id))
    (hr : Reference.parse id = .ok r) (h : Reference.empty.secondLocator? d = none) :
    (Reference.empty.resolve r).toLocator = .empty := by
  have hstable := Reference.isStable_toLocator
    (Reference.isNormal_empty.resolve (Reference.isNormal_of_parse hr))
  simp only [Reference.secondLocator?, hid, hr] at h
  generalize (Reference.empty.resolve r).toLocator = other at h hstable ⊢
  rw [ite_eq_left_iff] at h
  have hcases : other.isEmpty = true ∨ other.contains .empty = true := by
    by_contra hn
    rw [← Bool.or_eq_true] at hn
    cases h hn
  have hchars : (other.uri.withFragment none).toChars = [] := by
    rcases hcases with he | he
    · have he : other.canonical = ['#'] := of_decide_eq_true he
      rw [Reference.canonical, Uri.toChars_withFragment_some] at he
      cases hn : (other.uri.withFragment none).toChars with
      | nil => rfl
      | cons c rest => rw [hn] at he; simp at he
    · exact of_decide_eq_true he
  rw [Uri.withFragment_self hstable.bare] at hchars
  exact Reference.eq_empty_of_toChars_eq_nil hchars

/-- A document with no text as `id` of its root is kept for the nameless locator. -/
theorem settles_of_nameless (hid : ∀ text, d.get? "id" ≠ some (.str text))
    (hk : g.cached? .empty = some (.ok d)) :
    g.Settles d .empty ∧ g.IsView d .empty .empty := by
  have hview : g.IsView d .empty .empty :=
    ⟨Reference.isStable_empty, hk, Reference.refine_of_nameless hid _⟩
  refine ⟨⟨?_, fun hr => .of_relative Reference.isNormal_empty rfl hr⟩, hview⟩
  rwa [Reference.isStable_empty.toLocator]

/-- A root `id` without scheme names a second locator, or the nameless one. -/
theorem settles_of_relative {id : String} (hid : d.get? "id" = some (.str id))
    (hr : Reference.parse id = .ok r) (hs : r.scheme = none)
    (hback : ∀ second, Reference.empty.secondLocator? d = some second → second.LeadsBack r)
    (hreg : (g.register .empty d).1 = .ok ()) :
    ∃ base, (g.register .empty d).2.Settles d base ∧
      (g.register .empty d).2.IsView d base .empty := by
  have hrn := Reference.isNormal_of_parse hr
  have hbn : (Reference.empty.resolve r).IsNormal := Reference.isNormal_empty.resolve hrn
  have hbs : (Reference.empty.resolve r).scheme = none := by
    rw [Reference.resolve_of_relative rfl hs]
    rcases Reference.ofUri_cases (u := Reference.empty.uri.mergeRelative r.uri)
      Uri.scheme_mergeRelative (Reference.removeDotSegments_path_mergeRelative rfl)
      with ⟨he, -⟩ | he
    · rw [he]
      rfl
    · rw [he]
      exact Uri.scheme_mergeRelative
  have hview : (g.register .empty d).2.IsView d (Reference.empty.resolve r) .empty := by
    refine ⟨Reference.isStable_empty, ?_, Reference.refine_of_get? hid hr _⟩
    have hk := cached?_register_self hreg
    rwa [Reference.isStable_empty.toLocator] at hk
  refine ⟨_, ⟨?_, fun hl => .of_relative hbn hbs hl⟩, hview⟩
  cases hsecond : Reference.empty.secondLocator? d with
  | none =>
    rw [toLocator_of_secondLocator?_eq_none hid hr hsecond]
    exact hview
  | some second =>
    obtain ⟨rfl, hne⟩ := secondLocator?_of_parse hid hr hsecond
    refine ⟨Reference.isStable_toLocator hbn, cached?_register_second hreg ?_, ?_⟩
    · rwa [Reference.isStable_empty.toLocator]
    · rw [Reference.refine_of_get? hid hr]
      exact (Reference.resolve_resolve_iff rfl rfl hne).2 (hback _ hsecond)

/-- A root `id` with a scheme names the locator of its document. -/
theorem settles_of_scheme {id : String} (hid : d.get? "id" = some (.str id))
    (hr : Reference.parse id = .ok r) (hs : r.scheme.isSome) (ha : r.Anchors)
    (hreg : (g.register r.toLocator d).1 = .ok ()) :
    (g.register r.toLocator d).2.Settles d r ∧
      (g.register r.toLocator d).2.IsView d r r.toLocator := by
  have hstable := Reference.isStable_toLocator (Reference.isNormal_of_parse hr)
  have hview : (g.register r.toLocator d).2.IsView d r r.toLocator := by
    refine ⟨hstable, ?_, ?_⟩
    · have hk := cached?_register_self hreg
      rwa [hstable.toLocator] at hk
    · rw [Reference.refine_of_get? hid hr, Reference.resolve_of_scheme hs]
  exact ⟨⟨hview, fun hl => ha.leadsTo hr hl⟩, hview⟩

/-- **A validation against a closed document finds all schemas**, if the `id` of the root anchors
references and leads back to itself from the second locator that it names. -/
theorem validateRoot_ne_unresolved (hw : d.WellFormed) (hc : d.Closed) {locator : Reference}
    (hreg : (g.registerRoot d).1 = .ok locator)
    (hid : ∀ id r, d.get? "id" = some (.str id) → Reference.parse id = .ok r → r.Anchors ∧
      ∀ second, Reference.empty.secondLocator? d = some second → second.LeadsBack r)
    (cause : ResolveError) : g.validateRoot d value ≠ .error (.unresolved cause) := by
  obtain ⟨hroot, hregister⟩ := ok_of_registerRoot hreg
  rw [validateRoot_of_registerRoot hreg]
  obtain ⟨base, hsettles, hview⟩ : ∃ base, (g.register locator d).2.Settles d base ∧
      (g.register locator d).2.IsView d base locator := by
    unfold rootLocator at hroot
    by_cases htext : ∃ id, d.get? "id" = some (.str id)
    · obtain ⟨id, htext⟩ := htext
      rw [htext] at hroot
      obtain ⟨r, hr, hroot⟩ := Uri.map_eq_ok_iff.1 hroot
      obtain ⟨ha, hback⟩ := hid id r htext hr
      cases hs : r.scheme with
      | none =>
        rw [hs] at hroot
        obtain rfl : .empty = locator := hroot
        exact settles_of_relative htext hr hs hback hregister
      | some scheme =>
        rw [hs] at hroot
        obtain rfl : r.toLocator = locator := hroot
        exact ⟨r, settles_of_scheme htext hr (by rw [hs]; rfl) ha hregister⟩
    · have hnameless : ∀ text, d.get? "id" ≠ some (.str text) := fun text he => htext ⟨text, he⟩
      obtain rfl : .empty = locator := by
        cases hv : d.get? "id" with
        | none => rw [hv] at hroot; exact Except.ok.inj hroot
        | some v =>
          rw [hv] at hroot
          cases v with
          | str text => exact absurd hv (hnameless text)
          | _ => exact Except.ok.inj hroot
      have hk := cached?_register_self hregister
      rw [Reference.isStable_empty.toLocator] at hk
      exact ⟨_, settles_of_nameless hnameless hk⟩
  exact validate_ne_unresolved hw hc hsettles hview cause

/-! ## Closed documents with and without a place -/

/-- A document with references to one of its definitions and to its root. -/
def located : Json :=
  .obj [("id", .str "file:///s.json"), ("extends", .obj [("$ref", .str "#/definitions/a%20b")]),
    ("definitions", .obj [("a b", .obj [("$ref", .str "#")])])]

/-- The locator that the `id` of the document names. -/
def locatedLocator : Reference :=
  ⟨⟨some "file".toList, some [], "/s.json".toList, none, none⟩⟩

theorem closed_located : located.Closed where
  refs := by
    have hroot : (Json.str "#").RefersInto located := ⟨[], .empty, rfl, by cbv, by cbv⟩
    have hdefinition : (Json.str "#/definitions/a%20b").RefersInto located :=
      ⟨"/definitions/a%20b".toList,
        ⟨⟨none, none, [], none, some "/definitions/a%20b".toList⟩⟩, rfl, by cbv, by cbv⟩
    simpa [located, Json.Every, Json.EveryMember] using ⟨hdefinition, hroot⟩
  nameless token v hv := by
    have hm := Json.mem_of_lookup hv
    simp only [List.mem_cons, Prod.mk.injEq, List.not_mem_nil, or_false] at hm
    rcases hm with ⟨-, rfl⟩ | ⟨-, rfl⟩ | ⟨-, rfl⟩ <;> simp [Json.Every, Json.EveryMember]

theorem validateRoot_located :
    ¬ ∃ cause, (fresh [] .standard).validateRoot located .null = .error (.unresolved cause) := by
  rintro ⟨cause, hunresolved⟩
  have hwf : located.WellFormed := by
    simp [located, Json.WellFormed, Json.WellFormedMembers]
  have hreg : ((fresh [] .standard).registerRoot located).1 = .ok locatedLocator := by
    have hroot : rootLocator located = .ok locatedLocator := rfl
    have haccepts : Vocabulary.standard.accepts located := by decide +kernel
    exact registerRoot_of_accepts hroot haccepts
  have hid : Reference.parse "file:///s.json" = .ok locatedLocator := rfl
  have hanchors : locatedLocator.Anchors := .url rfl rfl rfl
  refine validateRoot_ne_unresolved hwf closed_located hreg (fun id r hget hr => ?_) cause
    hunresolved
  obtain rfl : "file:///s.json" = id := by
    cases hget
    rfl
  rw [hid] at hr
  cases hr
  refine ⟨hanchors, fun second _ hback => ?_⟩
  cases hback.1

/-- A document that refers to itself, with an opaque `id`. -/
def placeless : Json :=
  .obj [("id", .str "urn:x"), ("$ref", .str "#")]

/-- The locator that the `id` of the document names. -/
def placelessLocator : Reference :=
  ⟨⟨some "urn".toList, none, ['x'], none, none⟩⟩

/-- The node of the document. -/
def placelessRoot : SchemaNode :=
  .of placelessLocator placeless []

/-- The registry that keeps the document. -/
def placelessRegistry : Registry :=
  ⟨[], .standard, [(placelessLocator.locator, .ok placeless)], []⟩

theorem closed_placeless : placeless.Closed where
  refs := by
    have hroot : (Json.str "#").RefersInto placeless := ⟨[], .empty, rfl, by cbv, by cbv⟩
    simpa [placeless, Json.Every, Json.EveryMember] using hroot
  nameless token v hv := by
    have hm := Json.mem_of_lookup hv
    simp only [List.mem_cons, Prod.mk.injEq, List.not_mem_nil, or_false] at hm
    rcases hm with ⟨-, rfl⟩ | ⟨-, rfl⟩ <;> trivial

open Evaluation in
theorem visit_placelessRoot (depth : Nat) : ∃ e, (∃ cause, e = .unresolved cause) ∧
    ((visit (depth + 1) [] placelessRoot (.root .null)).run ⟨placelessRegistry, []⟩).1 =
      .error e := by
  have hconstraints : Constraint.forType placelessRoot.raw (Instance.root .null).type =
      [.ref (.str "#")] := rfl
  obtain ⟨cause, hfind⟩ : ∃ cause,
      (placelessRegistry.find placelessRoot (.referenced (.str "#"))).1 = .error cause := by
    exact ⟨_, by cbv⟩
  rw [visit_of_notMem (by simp), hconstraints]
  simp only [List.map_cons, List.map_nil, all, passes, Constraint.judge, run_bind, run_find, hfind,
    Except.mapError]
  exact ⟨_, ⟨cause, rfl⟩, rfl⟩

/-- **An opaque `id` keeps a closed document from being found**: references in it lead nowhere. -/
theorem unresolved_placeless : placeless.WellFormed ∧ placeless.Closed ∧
    ((fresh [] .standard).registerRoot placeless).1 = .ok placelessLocator ∧
    ¬ ∀ cause, (fresh [] .standard).validateRoot placeless .null ≠ .error (.unresolved cause) := by
  have hregister : (fresh [] .standard).registerRoot placeless =
      (.ok placelessLocator, placelessRegistry) := by
    cbv
  have hget : placelessRegistry.getSchema placelessLocator =
      (.ok placelessRoot, placelessRegistry) := by
    cbv
  have hwf : placeless.WellFormed := by
    simp [placeless, Json.WellFormed, Json.WellFormedMembers]
  obtain ⟨e, ⟨cause, rfl⟩, he⟩ := exists_validateRoot_eq hregister hget (by decide : 1 ≤ allowance)
    visit_placelessRoot
  exact ⟨hwf, closed_placeless, congrArg Prod.fst hregister, fun hnever => hnever cause he⟩

end Registry

end JsonSchema
