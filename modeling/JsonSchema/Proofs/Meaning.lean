import JsonSchema.Proofs.Descent
import JsonSchema.Proofs.Represented
import Mathlib

/-!
# What schemas without references mean

A schema without references means the same wherever it stands: which values it admits is said by
its constraints, by the schemas below it, and by nothing around it. Evaluations find out what it
means, since they go down the document, past no pair that is being evaluated.

* `Json.Admits`: the meaning of a schema.
* `Registry.meets_visit_admits`: an evaluation finds out what a schema means.
* `Registry.validateRoot_iff_admits`: a value is valid against a document if the document admits it.
* `Json.UnionAdmits`: the meaning of a union of types.
* `Registry.disallow_complements_type`: what a union rules out is what it admits.
-/

namespace JsonSchema

open Validation

/-! ## Verdicts -/

namespace Verdict

variable {A A' R R' : Target → Prop} {verdict : Verdict}

theorem Favours.mono (h : verdict.Favours A R) (hA : ∀ t, A t → A' t) (hR : ∀ t, R t → R' t) :
    verdict.Favours A' R' := by
  cases verdict with
  | passed => trivial
  | deferred t => exact hA t h
  | anyOf targets _ =>
    obtain ⟨t, ht, h⟩ := h
    exact ⟨t, ht, hA t h⟩
  | noneOf targets _ => exact fun t ht => hR t (h t ht)
  | failed | overflow => exact h.elim

/-- A verdict does not come out badly and well. -/
theorem Refuses.not_favours (h : verdict.Refuses A R) (hA : ∀ t, R t → ¬ A' t)
    (hR : ∀ t, A t → ¬ R' t) : ¬ verdict.Favours A' R' := by
  cases verdict with
  | failed => exact id
  | deferred t => exact hA t h
  | anyOf targets _ =>
    rintro ⟨t, ht, ht'⟩
    exact hA t (h t ht) ht'
  | noneOf targets _ =>
    obtain ⟨t, ht, h⟩ := h
    exact fun hall => hR t h (hall t ht)
  | passed | overflow => exact h.elim

end Verdict

/-! ## Meaning -/

namespace Json

/-- A schema holds another one at a place below it. -/
def HoldsAt (schema : Json) (t : Target) (s : Json) : Prop :=
  match t with
  | .below tokens => schema.walk? tokens = some s ∧ s.size < schema.size
  | .referenced _ => False

theorem HoldsAt.size_lt {schema s : Json} {t : Target} (h : schema.HoldsAt t s) :
    s.size < schema.size := by
  cases t with
  | below tokens => exact h.2
  | referenced value => exact h.elim

theorem HoldsAt.unique {schema s s' : Json} {t : Target} (h : schema.HoldsAt t s)
    (h' : schema.HoldsAt t s') : s' = s := by
  cases t with
  | below tokens => exact Option.some.inj (h'.1.symm.trans h.1)
  | referenced value => exact h.elim

/-- **The meaning of a schema without references**: a value is admitted if every constraint of the
schema comes out well, by what the schemas below it mean, and every part of the value is admitted by
the schemas that it is routed to. -/
def Admits (schema v : Json) : Prop :=
  (∀ c ∈ Constraint.forType schema (NodeType.of v), (c.judge v).Favours
      (fun t => ∃ s, ∃ _ : schema.HoldsAt t s, Admits s v)
      (fun t => ¬ ∃ s, ∃ _ : schema.HoldsAt t s, Admits s v)) ∧
    ∀ part ∈ Instance.parts v,
      ∀ t ∈ (Routing.of (NodeType.of v) schema).targets schema part.1,
        ∃ s, ∃ _ : schema.HoldsAt t s, Admits s part.2
  termination_by schema.size
  decreasing_by all_goals exact HoldsAt.size_lt ‹_›

/-- A schema admits a value at a place below it. -/
def AdmitsAt (schema : Json) (v : Json) (t : Target) : Prop :=
  ∃ s, schema.HoldsAt t s ∧ s.Admits v

theorem admits_iff {schema v : Json} : schema.Admits v ↔
    (∀ c ∈ Constraint.forType schema (NodeType.of v),
      (c.judge v).Favours (schema.AdmitsAt v) fun t => ¬ schema.AdmitsAt v t) ∧
    ∀ part ∈ Instance.parts v, ∀ t ∈ (Routing.of (NodeType.of v) schema).targets schema part.1,
      schema.AdmitsAt part.2 t := by
  rw [Admits]
  simp only [exists_prop]
  rfl

end Json

/-! ## Places further down -/

/-- A pointer has a shorter text than those that lead on from it. -/
theorem Reference.length_encodeFragment_lt {tokens : List (List Char)} (pointer : List Char)
    (h : tokens ≠ []) : (encodeFragment pointer).length <
      (encodeFragment (tokens.foldl Pointer.child pointer)).length := by
  have hchild (pointer token : List Char) : (encodeFragment pointer).length <
      (encodeFragment (Pointer.child pointer token)).length := by
    have hne : encodeFragment ('/' :: Pointer.escape token) ≠ [] := fun he =>
      List.cons_ne_nil _ _ (Percent.encode_eq_nil he)
    rw [encodeFragment, Pointer.child, encodeFragment, Percent.encode_append, List.length_append]
    exact Nat.lt_add_of_pos_right (List.length_pos_iff.2 hne)
  induction tokens generalizing pointer with
  | nil => exact absurd rfl h
  | cons token rest ih =>
    rcases eq_or_ne rest [] with rfl | hrest
    · exact hchild pointer token
    · exact (hchild pointer token).trans (ih _ hrest)

namespace Registry

variable {g : Registry} {n q : Reference} {d v : Json} {s s' : SchemaNode} {t : Target}

/-- A node further down in its document than another one: what is found there at a place below the
other one. -/
structure IsBelow (n : Reference) (d : Json) (s : SchemaNode) (t : Target) (s' : SchemaNode) :
    Prop where
  visited : IsVisited n d s'
  holds : s.raw.HoldsAt t s'.raw
  longer : s.reference.canonical.length < s'.reference.canonical.length

/-- **A look-up leads further down the document.** -/
theorem find_isBelow (hn : n.IsStable) (hc : g.cached? n = some (.ok d)) (hs : IsVisited n d s)
    (hrefs : d.Every fun name _ => name ≠ "$ref") (ht : s.raw.Checks t) :
    ∃ s', g.find s t = (.ok s', g) ∧ IsBelow n d s t s' := by
  cases t with
  | below tokens =>
    have hchecks := ht
    obtain ⟨v, hv, hnests⟩ := ht
    have hsize := (hnests s.pointer).size_lt
    have hraw := SchemaNode.raw_of_at? n ((Json.at?_foldl_child hs.place tokens).trans hv)
    obtain ⟨s', hfind, hvisited, -⟩ := find_of_isVisited hn hc hs hrefs hchecks
    rw [find_below hn hc hs.locator hs.place hv] at hfind
    cases hfind
    refine ⟨_, find_below hn hc hs.locator hs.place hv, hvisited, ⟨hraw ▸ hv, hraw ▸ hsize⟩, ?_⟩
    have htokens : tokens ≠ [] := by
      rintro rfl
      cases hv
      exact absurd hsize (lt_irrefl _)
    have hlength := Reference.length_encodeFragment_lt s.pointer htokens
    rw [SchemaNode.reference, SchemaNode.reference, hs.locator, hn.canonical_withPointer]
    change _ < (n.withPointer (tokens.foldl Pointer.child s.pointer)).canonical.length
    rw [hn.canonical_withPointer]
    simpa using hlength
  | referenced value =>
    obtain ⟨tokens, hwalk⟩ := hs.exists_walk?
    exact absurd rfl ((hrefs.walk? hwalk).of_mem ht)

theorem meets_find_isBelow (hn : n.IsStable) (hc : g.cached? n = some (.ok d))
    (hs : IsVisited n d s) (hrefs : d.Every fun name _ => name ≠ "$ref") (ht : s.raw.Checks t) :
    Evaluation.Meets (· = g) (Evaluation.find s t) (IsBelow n d s t) fun _ => False := by
  obtain ⟨s', hfind, hs'⟩ := find_isBelow hn hc hs hrefs ht
  refine .find fun g' hg' => ?_
  obtain rfl : g' = g := hg'
  rw [hfind]
  exact ⟨rfl, hs'⟩

theorem admitsAt_of_isBelow (h : ∃ s', IsBelow n d s t s' ∧ s'.raw.Admits v) :
    s.raw.AdmitsAt v t := by
  obtain ⟨s', hs', h⟩ := h
  exact ⟨s'.raw, hs'.holds, h⟩

/-- There is one schema at a place. -/
theorem not_admitsAt_of_isBelow (h : ∃ s', IsBelow n d s t s' ∧ ¬ s'.raw.Admits v) :
    ¬ s.raw.AdmitsAt v t := by
  obtain ⟨s', hs', h⟩ := h
  rintro ⟨w, hw, h'⟩
  rw [hs'.holds.unique hw] at h'
  exact h h'

/-- **An evaluation finds out what a schema means.** The pairs that are being evaluated are of
schemas further up, so that none of them cuts the evaluation short. -/
theorem meets_visit_admits (hw : d.WellFormed) (ha : Vocabulary.standard.accepts d)
    (hrefs : d.Every fun name _ => name ≠ "$ref") (hn : n.IsStable)
    (hc : g.cached? n = some (.ok d)) {depth : Nat} (active : List Pair) (m : Instance)
    (hs : IsVisited n d s) (hdepth : s.raw.size ≤ depth)
    (hactive : ∀ pair ∈ active, pair.1.length < s.reference.canonical.length) :
    Evaluation.Meets (· = g) (visit depth active s m)
      (Evaluation.Judges (s.raw.Admits m.value) (¬ s.raw.Admits m.value)) fun _ => False := by
  induction depth generalizing active s m with
  | zero => exact absurd hdepth (Nat.not_le.2 (Json.size_pos _))
  | succ depth ih =>
    have hnew : pairOf s m ∉ active := fun hm => absurd (hactive _ hm) (lt_irrefl _)
    obtain ⟨tokens, hwalk⟩ := hs.exists_walk?
    have hfound {t : Target} {m' : Instance} (hl : LooksUp s m t m') :
        Evaluation.Meets (· = g) (Evaluation.find s t) (IsBelow n d s t) fun _ => False :=
      meets_find_isBelow hn hc hs hrefs (hl.checks (hw.walk? hwalk))
    have hjudged {t : Target} {s' : SchemaNode} (hs' : IsBelow n d s t s') (m' : Instance) :
        Evaluation.Meets (· = g) (visit depth (pairOf s m :: active) s' m')
          (Evaluation.Judges (s'.raw.Admits m'.value) (¬ s'.raw.Admits m'.value))
          fun _ => False := by
      refine ih _ m' hs'.visited (Nat.le_of_lt_succ (hs'.holds.size_lt.trans_le hdepth)) ?_
      exact List.forall_mem_cons.2 ⟨hs'.longer, fun pair hp => (hactive pair hp).trans hs'.longer⟩
    have hconstraints : Evaluation.Meets (· = g)
        (Evaluation.all ((Constraint.forType s.raw m.type).map
          (passes (visit depth (pairOf s m :: active)) (pairOf s m :: active) s m))) _ _ :=
      Evaluation.Meets.all fun c hc => Evaluation.meets_passes (fun _ => id)
        (fun ho => Vocabulary.not_mem_minusOne_of_accepts ha hs.visited
          (Constraint.mem_minusOne_of_judge hc ho).2)
        (fun t ht => hfound (.constraint hc ht)) fun t _ s' hs' => hjudged hs' m
    have hchildren := Evaluation.Meets.all fun child hchild =>
      Evaluation.meets_childPasses (fun t ht => hfound (.child hchild ht))
        fun t _ s' hs' => hjudged hs' child
    rw [Evaluation.visit_of_notMem hnew, Json.admits_iff]
    refine hconstraints.bind fun passed hpassed => ?_
    cases passed with
    | false =>
      obtain ⟨c, hc, hrefuses⟩ := hpassed.2 rfl
      refine .pure ⟨nofun, fun _ h =>
        hrefuses.not_favours (fun _ => not_admitsAt_of_isBelow) ?_ (h.1 c hc)⟩
      exact fun t ht hn => hn (admitsAt_of_isBelow ht)
    | true =>
      have hfavours := hpassed.1 rfl
      refine hchildren.mono (fun b hb => hb.mono (fun hall => ⟨fun c hc => ?_, ?_⟩) ?_) fun _ => id
      · exact (hfavours c hc).mono (fun _ => admitsAt_of_isBelow) fun _ => not_admitsAt_of_isBelow
      · intro part hpart t ht
        refine admitsAt_of_isBelow (hall (m.child part.1 part.2) ?_ t ht)
        exact List.mem_map.2 ⟨part, hpart, rfl⟩
      · rintro ⟨child, hchild, t, ht, hrejected⟩ h
        obtain ⟨part, hpart, rfl⟩ := List.mem_map.1 hchild
        exact not_admitsAt_of_isBelow hrejected (h.2 part hpart t ht)

/-- **A value is valid against a document without references if the document admits it**, whatever
else the registry holds and whatever it may fetch. -/
theorem validateRoot_iff_admits (hvoc : g.vocabulary = .standard) (hw : d.WellFormed)
    (hreg : (g.registerRoot d).1 = .ok q) (hrefs : d.Every fun name _ => name ≠ "$ref")
    (v : Json) : ∃ report, g.validateRoot d v = .ok report ∧ (report.valid ↔ d.Admits v) := by
  obtain ⟨hq, hregister⟩ := ok_of_registerRoot hreg
  have ha : Vocabulary.standard.accepts d := hvoc ▸ accepts_of_register hregister
  have hn := isStable_of_rootLocator hq
  have hc := cached?_register_self hregister
  rw [hn.toLocator] at hc
  rw [validateRoot_of_registerRoot hreg]
  generalize (g.register q d).2 = g' at hc ⊢
  have hmeets := meets_visit_admits hw ha hrefs hn hc [] (.root v) (isVisited_root q d)
    (size_lt_depthBound g' (.of q d []) v).le (fun _ hp => by cases hp)
  have hresult := Evaluation.Meets.validate {} hmeets rfl
  rw [validate_of_getSchema (getSchema_of_isStable hn hc), SchemaNode.validate]
  have hraw : (SchemaNode.of q d []).raw = d := rfl
  rw [hraw] at hresult
  generalize State.validate {} g' (.of q d []) (.root v) = outcome at hresult ⊢
  obtain ⟨_ | b, state, g''⟩ := outcome
  · exact hresult.elim
  · refine ⟨⟨b, state.messages⟩, rfl, hresult.1, fun hadmits => ?_⟩
    cases b with
    | false => exact absurd hadmits (hresult.2 rfl)
    | true => rfl

end Registry

/-! ## Unions of types -/

namespace Constraint

variable {union : TypeUnion} {v : Json} {A R : Target → Prop}

theorem favours_judge_type_iff : ((type union).judge v).Favours A R ↔
    union.admits (NodeType.of v) ∨ ∃ t ∈ union.targets "type", A t := by
  rw [judge]
  by_cases hname : union.admits (NodeType.of v)
  · simp [hname, Verdict.Favours]
  by_cases hempty : union.schemas = []
  · simp [hname, hempty, TypeUnion.targets, Verdict.Favours]
  · simp [hname, hempty, Verdict.Favours]

theorem favours_judge_disallow_iff : ((disallow union).judge v).Favours A R ↔
    ¬ union.admits (NodeType.of v) ∧ ∀ t ∈ union.targets "disallow", R t := by
  rw [judge]
  by_cases hname : union.admits (NodeType.of v)
  · simp [hname, Verdict.Favours]
  by_cases hempty : union.schemas = []
  · simp [hname, hempty, TypeUnion.targets, Verdict.Favours]
  · simp [hname, hempty, Verdict.Favours]

end Constraint

namespace Json

variable {u v s : Json} {keyword : String} {token : List Char}

/-- The meaning of a union of types: a name of it admits the type of a value, or a schema of it
admits the value. -/
def UnionAdmits (u v : Json) : Prop :=
  (TypeUnion.ofJson u).admits (NodeType.of v) ∨
    ∃ i ∈ (TypeUnion.ofJson u).schemas, ∃ s, u.below? (Nat.toDigits 10 i) = some s ∧ s.Admits v

/-- The places below the only keyword of a schema. -/
theorem holdsAt_single : (obj [(keyword, u)]).HoldsAt (.below [keyword.toList, token]) s ↔
    u.below? token = some s := by
  have hbelow : (obj [(keyword, u)]).below? keyword.toList = some u :=
    below?_toList _ _ (if_pos rfl)
  have hlast (x : Option Json) : (x.bind fun w => w.walk? []) = x := by
    cases x <;> rfl
  rw [HoldsAt, walk?, hbelow, Option.bind_some, walk?, hlast, and_iff_left_iff_imp]
  exact fun h => (size_le_of_below? h).trans_lt (by simp [size, sizeMembers])

theorem exists_target_admitsAt_iff : (∃ t ∈ (TypeUnion.ofJson u).targets keyword,
      (obj [(keyword, u)]).AdmitsAt v t) ↔
    ∃ i ∈ (TypeUnion.ofJson u).schemas, ∃ s, u.below? (Nat.toDigits 10 i) = some s ∧
      s.Admits v := by
  simp only [TypeUnion.targets, List.mem_map, exists_exists_and_eq_and, AdmitsAt, holdsAt_single]

/-- The meaning of a schema that imposes one constraint, on values of all types. -/
theorem admits_iff_of_ofSchema_eq {c : Constraint} (hnone : ∀ t, Routing.of t s = .none)
    (hof : Constraint.ofSchema s = [c]) (htypes : c.types = NodeType.all) :
    s.Admits v ↔ (c.judge v).Favours (s.AdmitsAt v) fun t => ¬ s.AdmitsAt v t := by
  have hfor : Constraint.forType s (NodeType.of v) = [c] := by
    rw [Constraint.forType, hof, List.filter_singleton, htypes, decide_eq_true (NodeType.mem_all _)]
    rfl
  rw [admits_iff, hfor, List.forall_mem_singleton, hnone]
  exact and_iff_left fun part _ t ht => by cases ht

theorem admits_type_iff : (obj [("type", u)]).Admits v ↔ u.UnionAdmits v := by
  rw [admits_iff_of_ofSchema_eq (fun t => by cases t <;> rfl) rfl rfl,
    Constraint.favours_judge_type_iff, exists_target_admitsAt_iff, UnionAdmits]

/-- **What a schema that disallows a union means**: the union does not admit the value. -/
theorem admits_disallow_iff : (obj [("disallow", u)]).Admits v ↔ ¬ u.UnionAdmits v := by
  rw [admits_iff_of_ofSchema_eq (fun t => by cases t <;> rfl) rfl rfl,
    Constraint.favours_judge_disallow_iff, UnionAdmits, not_or, ← exists_target_admitsAt_iff]
  push Not
  rfl

end Json

namespace Vocabulary

variable {voc : Vocabulary} {keyword : String} {rule : Rule} {u schema : Json}

/-- What is found in an accepted schema is harmless, wherever the schema stands. -/
theorem isFatal_eq_false_of_accepts (ha : voc.accepts schema) {place : List Char} {f : Finding}
    (hf : f ∈ voc.findingsAt place schema) : f.isFatal = false := by
  obtain ⟨f', hf', hcause⟩ := exists_cause_eq_of_mem_findingsAt hf []
  rw [← isFatal_eq_of_cause hcause]
  exact accepts_iff.1 ha f' hf'

/-- When a schema with one keyword is accepted. -/
theorem accepts_single_iff (hr : voc.rule? keyword = some rule) :
    voc.accepts (.obj [(keyword, u)]) ↔
      rule.IsQuiet u [(keyword, u)] ∧ (rule.run u [(keyword, u)]).failure = none ∧
        ∀ tokens nested, .nested tokens nested ∈ (rule.run u [(keyword, u)]).steps →
          voc.accepts nested := by
  have hroot := root_mem_positions voc (.obj [(keyword, u)])
  have hm : (keyword, u) ∈ (Json.obj [(keyword, u)]).members := List.mem_singleton_self _
  constructor
  · intro ha
    refine ⟨fun complaint => not_mem_steps_of_accepts ha hroot hm hr, ?_,
      fun tokens nested hs => ?_⟩
    · by_contra hne
      obtain ⟨reason, hreason⟩ := Option.ne_none_iff_exists'.1 hne
      cases accepts_iff.1 ha _ (mem_findings_of_mem_positions hroot (.failed hm hr hreason))
    · have hnests : voc.Nests [] (.obj [(keyword, u)]) _ nested :=
        ⟨keyword, u, rule, tokens, hm, hr, hs, rfl⟩
      exact accepts_of_mem_positions ha (hnests.mem_positions hroot)
  · rintro ⟨hquiet, hfailure, hnested⟩
    refine accepts_iff.2 fun f hf => ?_
    rcases mem_findingsAt_iff.1 hf with hf | ⟨below, nested, ⟨k, w, r, tokens, hm', hr', hs, -⟩, hf⟩
    · cases hf with
      | notASchema h => cases h
      | unknown hm' hr' =>
        cases List.mem_singleton.1 hm'
        cases hr.symm.trans hr'
      | invalid hm' hr' hs =>
        cases List.mem_singleton.1 hm'
        cases hr.symm.trans hr'
        exact absurd hs (hquiet _)
      | failed hm' hr' hreason =>
        cases List.mem_singleton.1 hm'
        cases hr.symm.trans hr'
        cases hfailure.symm.trans hreason
    · cases List.mem_singleton.1 hm'
      cases hr.symm.trans hr'
      exact isFatal_eq_false_of_accepts (hnested tokens nested hs) hf

/-- Both keywords of unions accept the same values. -/
theorem accepts_disallow_of_accepts_type (h : standard.accepts (.obj [("type", u)])) :
    standard.accepts (.obj [("disallow", u)]) := by
  have htype : standard.rule? "type" = some .typeUnion := rfl
  have hdisallow : standard.rule? "disallow" = some .typeUnion := rfl
  obtain ⟨hquiet, hfailure, hnested⟩ := (accepts_single_iff htype).1 h
  exact (accepts_single_iff hdisallow).2 ⟨hquiet, hfailure, hnested⟩

end Vocabulary

namespace Registry

variable {g : Registry} {u : Json} {keyword : String}

/-- A schema of one keyword without references is valid for the values that it admits. -/
theorem validateRoot_single_iff_admits (hvoc : g.vocabulary = .standard) (hid : keyword ≠ "id")
    (href : keyword ≠ "$ref") (hw : u.WellFormed) (hrefs : u.Every fun name _ => name ≠ "$ref")
    (ha : Vocabulary.standard.accepts (.obj [(keyword, u)])) (v : Json) :
    ∃ report, g.validateRoot (.obj [(keyword, u)]) v = .ok report ∧
      (report.valid ↔ (Json.obj [(keyword, u)]).Admits v) := by
  have hroot : rootLocator (.obj [(keyword, u)]) = .ok .empty := by
    rw [rootLocator, Json.get?, Json.lookup, if_neg hid]
    rfl
  have hreg := registerRoot_of_accepts (g := g) hroot (hvoc ▸ ha)
  have hwf : (Json.obj [(keyword, u)]).WellFormed := ⟨List.nodup_singleton _, hw, trivial⟩
  exact validateRoot_iff_admits hvoc hwf hreg ⟨⟨href, hrefs⟩, trivial⟩ v

/-- **A union that is disallowed rules out what it admits as a type.** Take a value that is accepted
as a union of types and has no member `$ref` at any depth. A value is valid against the schema that
has the union as its type exactly if it is not valid against the schema that disallows the union,
and both have reports. -/
theorem disallow_complements_type (hvoc : g.vocabulary = .standard) (hw : u.WellFormed)
    (ha : Vocabulary.standard.accepts (.obj [("type", u)]))
    (hrefs : u.Every fun name _ => name ≠ "$ref") (v : Json) :
    Vocabulary.standard.accepts (.obj [("disallow", u)]) ∧
    ∃ report report', g.validateRoot (.obj [("type", u)]) v = .ok report ∧
      g.validateRoot (.obj [("disallow", u)]) v = .ok report' ∧
      (report.valid ↔ u.UnionAdmits v) ∧ report'.valid = !report.valid := by
  have ha' := Vocabulary.accepts_disallow_of_accepts_type ha
  obtain ⟨report, hreport, hvalid⟩ :=
    validateRoot_single_iff_admits hvoc (by decide) (by decide) hw hrefs ha v
  obtain ⟨report', hreport', hvalid'⟩ :=
    validateRoot_single_iff_admits hvoc (by decide) (by decide) hw hrefs ha' v
  rw [Json.admits_type_iff] at hvalid
  rw [Json.admits_disallow_iff, ← hvalid] at hvalid'
  refine ⟨ha', report, report', hreport, hreport', hvalid, ?_⟩
  rw [Bool.eq_iff_iff, hvalid', Bool.not_eq_true, Bool.not_eq_true']

/-- A union with a schema that has a union with a schema that disallows a union. -/
def nestedUnion : Json :=
  .arr [.str "string", .obj [("type", .arr [.str "null", .obj [("disallow", .arr [.str "boolean",
    .obj [("enum", .arr [.arr []])]])]])]]

/-- The empty array is ruled out within the union, so it is valid if the union is disallowed. -/
theorem disallow_complements_type_nested :
    Vocabulary.standard.accepts (.obj [("type", nestedUnion)]) ∧
    ∃ report report' : Report,
      (fresh [] .standard).validateRoot (.obj [("type", nestedUnion)]) (.arr []) = .ok report ∧
      (fresh [] .standard).validateRoot (.obj [("disallow", nestedUnion)]) (.arr []) =
        .ok report' ∧
      report'.valid = !report.valid := by
  have hw : nestedUnion.WellFormed := by
    simp [nestedUnion, Json.WellFormed, Json.WellFormedMembers, Json.WellFormedItems]
  have hrefs : nestedUnion.Every fun name _ => name ≠ "$ref" := by
    simp [nestedUnion, Json.Every, Json.EveryMember, Json.EveryItem]
  have ha : Vocabulary.standard.accepts (.obj [("type", nestedUnion)]) := by decide +kernel
  obtain ⟨-, report, report', hreport, hreport', -, hvalid⟩ :=
    disallow_complements_type (g := fresh [] .standard) rfl hw ha hrefs (.arr [])
  exact ⟨ha, report, report', hreport, hreport', hvalid⟩

end Registry

end JsonSchema
