import JsonSchema.Proofs.Locator
import JsonSchema.Proofs.Pointer
import JsonSchema.Proofs.Registry
import JsonSchema.Vocabulary.Standard
import Mathlib

/-!
# Documents under two locators

A document is kept under the locator that it is registered for, and under the one that its root
`id` names. Both show the same values. The bases of the two views agree exactly if the `id`,
resolved against the locator that it names, names it again.

* `Reference.scope_congr`: the bases below a value depend on the base inside the value only.
* `Registry.getSchema_withPointer`: the node at a place of a document with a stable locator.
* `Registry.alias_agrees_iff`: when the two views of a registered document agree.
-/

namespace JsonSchema

namespace Uri

variable {u v : Uri}

theorem scheme_mergeRelative : (u.mergeRelative v).scheme = u.scheme := by
  unfold mergeRelative
  split
  · rfl
  split <;> rfl

theorem resolve_of_scheme_eq_none (hu : u.scheme = none) (hv : v.scheme = none) :
    u.resolve v = u.mergeRelative v := by
  rw [resolve]
  simp [isOpaque, hu, hv]

end Uri

namespace Reference

variable {base base' : Reference} {v : Json}

theorem scope_congr (h : base.refine v = base'.refine v) (tokens : List (List Char)) :
    base.scope v tokens = base'.scope v tokens := by
  cases tokens with
  | nil => exact h
  | cons token rest =>
    rw [scope, scope, h]

theorem refine_of_get? {id : String} {r : Reference} (hid : v.get? "id" = some (.str id))
    (hr : parse id = .ok r) (base : Reference) : base.refine v = base.resolve r := by
  rw [refine, hid]
  simp only [hr]

theorem resolve_of_scheme {r : Reference} (h : r.scheme.isSome) (base : Reference) :
    base.resolve r = r := by
  rw [resolve, if_pos h]

/-- A base without scheme merges references into it. -/
theorem resolve_of_relative {r : Reference} (hb : base.scheme = none) (hr : r.scheme = none) :
    base.resolve r = ofUri (base.uri.mergeRelative r.uri) := by
  have harchive : resolveInArchive? base r = none := by
    rw [resolveInArchive?, hb]
    rfl
  rw [resolve, if_neg (by rw [hr]; exact Bool.false_ne_true), harchive, Option.getD_none,
    Uri.resolve_of_scheme_eq_none hb hr]

/-- A reference whose path is resolved within the path of its base. -/
def IsPathRelative (r : Reference) : Prop :=
  r.scheme = none ∧ r.uri.authority = none ∧ r.uri.path ≠ [] ∧ r.uri.path.head? ≠ some '/'

/-- The path that a reference writes leads from a locator back to the path of this locator. -/
def LeadsBack (locator r : Reference) : Prop :=
  r.IsPathRelative → Uri.removeDotSegments (locator.uri.merge r.uri.path) = locator.uri.path

theorem ofUri_cases {u : Uri} (hs : u.scheme = none)
    (hp : Uri.removeDotSegments u.path = u.path) :
    ofUri u = empty ∧ (u.toChars = [] ∨ u.toChars = ['#']) ∨ ofUri u = ⟨u⟩ := by
  have hn : u.normalize = u := by
    rw [Uri.normalize_of_scheme_eq_none hs, hp]
  unfold ofUri
  rw [hn]
  simp only
  split
  · rename_i hc
    exact .inl ⟨rfl, hc⟩
  · exact .inr rfl

theorem removeDotSegments_path_mergeRelative {b u : Uri}
    (hb : Uri.removeDotSegments b.path = b.path) :
    Uri.removeDotSegments (b.mergeRelative u).path = (b.mergeRelative u).path := by
  unfold Uri.mergeRelative
  split
  · exact Uri.removeDotSegments_idem _
  split
  · exact hb
  · simp only
    split
    · exact Uri.removeDotSegments_idem _
    · exact Uri.removeDotSegments_idem _

/-- Merging a reference into its own result changes no more than the path. -/
theorem mergeRelative_mergeRelative (b u : Uri) :
    (((b.mergeRelative u).withFragment none).mergeRelative u) =
      { b.mergeRelative u with
        path :=
          if u.authority = none ∧ u.path ≠ [] ∧ u.path.head? ≠ some '/' then
            Uri.removeDotSegments (((b.mergeRelative u).withFragment none).merge u.path)
          else (b.mergeRelative u).path } := by
  cases ha : u.authority with
  | some a => simp [Uri.mergeRelative, ha, Uri.withFragment]
  | none =>
    by_cases hp : u.path = []
    · cases hq : u.query <;> simp [Uri.mergeRelative, ha, hp, hq, Uri.withFragment]
    · by_cases hslash : u.path.head? = some '/'
      · simp [Uri.mergeRelative, ha, hp, hslash, Uri.withFragment]
      · simp [Uri.mergeRelative, ha, hp, hslash, Uri.withFragment]

/-- **When a reference names the same place seen from the locator that it led to.** -/
theorem resolve_resolve_iff {n r : Reference} (hn : n.scheme = none)
    (hp : Uri.removeDotSegments n.uri.path = n.uri.path)
    (hne : (n.resolve r).toLocator ≠ empty) :
    (n.resolve r).toLocator.resolve r = n.resolve r ↔ (n.resolve r).toLocator.LeadsBack r := by
  cases hs : r.scheme with
  | some scheme =>
    have hsome : r.scheme.isSome := by rw [hs]; rfl
    rw [resolve_of_scheme hsome, resolve_of_scheme hsome]
    refine iff_of_true rfl fun hr => ?_
    rw [hr.1] at hs
    cases hs
  | none =>
    rw [resolve_of_relative hn hs] at hne ⊢
    have hms : (n.uri.mergeRelative r.uri).scheme = none := Uri.scheme_mergeRelative.trans hn
    have hmp := removeDotSegments_path_mergeRelative (u := r.uri) hp
    have hmerge := mergeRelative_mergeRelative n.uri r.uri
    generalize n.uri.mergeRelative r.uri = m at *
    have hm : ofUri m = ⟨m⟩ := by
      refine (ofUri_cases hms hmp).resolve_left fun h => hne ?_
      rw [h.1, isStable_empty.toLocator]
    have hbare : (⟨m⟩ : Reference).toLocator = ⟨m.withFragment none⟩ := by
      refine (ofUri_cases (u := m.withFragment none) hms hmp).resolve_left fun h => hne ?_
      rw [hm]
      exact h.1
    have hm_ne : (⟨m⟩ : Reference) ≠ empty := fun h => hne (by rw [hm, h, isStable_empty.toLocator])
    have hres : (⟨m.withFragment none⟩ : Reference).resolve r =
        ofUri ((m.withFragment none).mergeRelative r.uri) := resolve_of_relative hms hs
    rw [hm, hbare, hres, hmerge]
    unfold LeadsBack IsPathRelative
    by_cases hrel : r.uri.authority = none ∧ r.uri.path ≠ [] ∧ r.uri.path.head? ≠ some '/'
    · rw [if_pos hrel]
      have hpath := Uri.removeDotSegments_idem ((m.withFragment none).merge r.uri.path)
      generalize Uri.removeDotSegments ((m.withFragment none).merge r.uri.path) = path at *
      constructor
      · intro h _
        rcases ofUri_cases (u := { m with path }) hms hpath with ⟨he, -⟩ | he
        · exact absurd (h.symm.trans he) hm_ne
        · exact congrArg (·.uri.path) (he.symm.trans h)
      · intro h
        rw [h ⟨hs, hrel⟩]
        exact hm
    · rw [if_neg hrel, hm]
      exact iff_of_true rfl fun h => absurd h.2 hrel

end Reference

theorem SchemaNode.raw_of_at? {d v : Json} {pointer : List Char} (n : Reference)
    (h : d.at? pointer = some v) : (SchemaNode.of n d pointer).raw = v := by
  rw [SchemaNode.raw, SchemaNode.of, h]
  rfl

namespace Registry

variable {g : Registry} {n : Reference} {d v : Json} {pointer : List Char}

theorem locate?_of_at? (h : d.at? pointer = some v) :
    (Fragment.ofText pointer).locate? d = some pointer := by
  have hp := Pointer.eq_nil_or_head?_of_tokens?
    (Json.isSome_tokens?_of_at? (by rw [h]; exact rfl : (d.at? pointer).isSome))
  rw [Fragment.ofText, if_pos hp, Fragment.locate?, h]
  rfl

/-- The node at a place of a document that is kept under a stable locator. -/
theorem getSchema_withPointer (hn : n.IsStable) (hc : g.cached? n = some (.ok d))
    (hp : d.at? pointer = some v) :
    g.getSchema (n.withPointer pointer) = (.ok (.of n d pointer), g) := by
  rw [getSchema, hn.toLocator_withPointer, document_of_cached? hc]
  simp only [Except.bind, nodeOf, hn.fragment_withPointer, locate?_of_at? hp,
    hn.toLocator_withPointer]

/-- The root of a document that is kept under a stable locator. -/
theorem getSchema_of_isStable (hn : n.IsStable) (hc : g.cached? n = some (.ok d)) :
    g.getSchema n = (.ok (.of n d []), g) := by
  have hfragment : n.fragment = .ofText [] := by
    rw [Reference.fragment, Reference.rawFragment, hn.bare]
    exact congrArg Fragment.ofText Reference.decode_nil
  rw [getSchema, hn.toLocator, document_of_cached? hc]
  simp only [Except.bind, nodeOf, hfragment, locate?_of_at? (show d.at? [] = some d from rfl),
    hn.toLocator]

/-! ## Registered documents -/

/-- **When the two views of a registered document agree.** Both locators show the same values; the
bases agree at every place exactly if the root `id`, resolved against the locator that it names,
leads back to it. -/
theorem alias_agrees_iff {text id : String} {locator second r : Reference}
    (hl : Reference.parse text = .ok locator) (hs : locator.scheme = none)
    (hreg : (g.register locator d).1 = .ok ()) (hid : d.get? "id" = some (.str id))
    (hr : Reference.parse id = .ok r) (ha : locator.toLocator.secondLocator? d = some second) :
    (∀ pointer v, d.at? pointer = some v → ∃ s t,
      ((g.register locator d).2.getSchema (locator.withPointer pointer)).1 = .ok s ∧
      ((g.register locator d).2.getSchema (second.withPointer pointer)).1 = .ok t ∧
      s.raw = v ∧ t.raw = v) ∧
    ((∀ pointer s t, (d.at? pointer).isSome →
        ((g.register locator d).2.getSchema (locator.withPointer pointer)).1 = .ok s →
        ((g.register locator d).2.getSchema (second.withPointer pointer)).1 = .ok t →
        s.base = t.base) ↔ second.LeadsBack r) := by
  have hln := Reference.isNormal_of_parse hl
  have hrn := Reference.isNormal_of_parse hr
  have hlstable := Reference.isStable_toLocator_of_relative hln hs
  obtain ⟨he, hne⟩ := secondLocator?_of_parse hid hr ha
  have hastable : second.IsStable := he ▸ Reference.isStable_toLocator (hln.toLocator.resolve hrn)
  have hcl := cached?_register_self hreg
  have hca := cached?_register_second hreg ha
  have hgl (pointer : List Char) (v : Json) (hp : d.at? pointer = some v) :=
    getSchema_withPointer hlstable hcl hp
  have hga (pointer : List Char) (v : Json) (hp : d.at? pointer = some v) :=
    getSchema_withPointer hastable hca hp
  simp only [Reference.withPointer_toLocator_of_relative hln hs] at hgl
  refine ⟨fun pointer v hp => ⟨_, _, congrArg Prod.fst (hgl pointer v hp),
    congrArg Prod.fst (hga pointer v hp), SchemaNode.raw_of_at? _ hp,
    SchemaNode.raw_of_at? _ hp⟩, ?_⟩
  have huri := Reference.uri_toLocator_of_relative hln hs
  have hls : locator.toLocator.scheme = none := by
    rw [Reference.scheme, huri]
    exact hs
  have hlpath : Uri.removeDotSegments locator.toLocator.uri.path = locator.toLocator.uri.path := by
    rw [huri]
    exact Uri.removeDotSegments_idem _
  have hback := Reference.resolve_resolve_iff (r := r) hls hlpath (he ▸ hne)
  rw [← he, ← Reference.refine_of_get? hid hr, ← Reference.refine_of_get? hid hr] at hback
  rw [← hback]
  constructor
  · intro h
    exact (h [] _ _ rfl (congrArg Prod.fst (hgl [] d rfl)) (congrArg Prod.fst (hga [] d rfl))).symm
  · intro h pointer s t hp hgs hgt
    obtain ⟨v, hv⟩ := Option.isSome_iff_exists.1 hp
    rw [congrArg Prod.fst (hgl pointer v hv)] at hgs
    rw [congrArg Prod.fst (hga pointer v hv)] at hgt
    cases hgs
    cases hgt
    exact Reference.scope_congr h.symm _

/-! ## Two documents -/

/-- A registry with the standard vocabulary that keeps a document for the empty locator. -/
def single (document : Json) : Except ResolveError Unit × Registry :=
  register ⟨[], .standard, [], []⟩ .empty document

/-- A document whose `id` has one segment. -/
def flat : Json :=
  .obj [("id", .str "b.json")]

/-- The locator that the `id` of the document names. -/
def flatLocator : Reference :=
  ⟨⟨none, none, "b.json".toList, none, none⟩⟩

theorem alias_agrees_flat :
    ∃ s t, ((single flat).2.getSchema (Reference.empty.withPointer [])).1 = .ok s ∧
      ((single flat).2.getSchema (flatLocator.withPointer [])).1 = .ok t ∧ s.base = t.base := by
  have hparse : Reference.parse "" = .ok .empty := by cbv
  have hid : Reference.parse "b.json" = .ok flatLocator := by cbv
  have hregister : (single flat).1 = .ok () := by cbv
  have hsecond : Reference.empty.toLocator.secondLocator? flat = some flatLocator := by cbv
  have hback : flatLocator.LeadsBack flatLocator := by
    intro _
    decide
  obtain ⟨hraw, hbase⟩ := alias_agrees_iff hparse rfl hregister rfl hid hsecond
  obtain ⟨s, t, hs, ht, -, -⟩ := hraw [] flat rfl
  exact ⟨s, t, hs, ht, hbase.2 hback [] s t rfl hs ht⟩

/-- A document whose `id` has two segments. -/
def nested : Json :=
  .obj [("id", .str "a/b.json")]

/-- The locator that the `id` of the document names. -/
def nestedLocator : Reference :=
  ⟨⟨none, none, "a/b.json".toList, none, none⟩⟩

/-- **The two views disagree about an `id` of two segments**: its first segment counts twice. -/
theorem alias_disagrees_nested :
    (single nested).1 = .ok () ∧
      Reference.empty.toLocator.secondLocator? nested = some nestedLocator ∧
      ∃ s t, ((single nested).2.getSchema (Reference.empty.withPointer [])).1 = .ok s ∧
        ((single nested).2.getSchema (nestedLocator.withPointer [])).1 = .ok t ∧
        s.base ≠ t.base := by
  have hfirst : ((single nested).2.getSchema (Reference.empty.withPointer [])).1.map (·.base) =
      .ok nestedLocator := by
    cbv
  have hsecond : ((single nested).2.getSchema (nestedLocator.withPointer [])).1.map (·.base) =
      .ok ⟨⟨none, none, "a/a/b.json".toList, none, none⟩⟩ := by
    cbv
  obtain ⟨s, hs, hsbase⟩ := Uri.map_eq_ok_iff.1 hfirst
  obtain ⟨t, ht, htbase⟩ := Uri.map_eq_ok_iff.1 hsecond
  refine ⟨by cbv, by cbv, s, t, hs, ht, ?_⟩
  rw [hsbase, htbase]
  decide

end Registry

end JsonSchema
