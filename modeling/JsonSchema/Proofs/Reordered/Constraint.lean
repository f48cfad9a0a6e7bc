import JsonSchema.Proofs.Reordered.Schema
import JsonSchema.Routing
import Mathlib

/-!
# Constraints up to the order of members

Schemas that are alike impose constraints that are alike, in some order: on values that are alike
they give the same kind of verdict, and leave the matter to the same places.

* `Verdict.Alike`, `Constraint.Alike`: what verdicts and constraints have in common.
* `Constraint.ofMember_permBy`: the constraints of one keyword.
* `Constraint.forType_permBy`: the constraints of a schema that concern a type.
* `Routing.of_eq`, `Routing.targets_perm`: the schemas for children.
-/

namespace JsonSchema

open Json

/-- Targets that are the same place, from any node. -/
def Target.Alike (t t' : Target) : Prop :=
  ∀ s : SchemaNode, s.locate t = s.locate t'

theorem Target.alike_referenced {v w : Json} (h : v.Alike w) :
    Target.Alike (.referenced v) (.referenced w) := by
  intro s
  simp only [SchemaNode.locate, Reference.ofJson_eq h]

namespace Verdict

/-- Verdicts of the same kind, which leave the matter to the same places. -/
inductive Alike : Verdict → Verdict → Prop
  | passed : Alike .passed .passed
  | failed (violations violations' : List Violation) :
    Alike (.failed violations) (.failed violations')
  | deferred {target target' : Target} (h : target.Alike target') :
    Alike (.deferred target) (.deferred target')
  | anyOf (targets : List Target) (otherwise otherwise' : Violation) :
    Alike (.anyOf targets otherwise) (.anyOf targets otherwise')
  | noneOf (targets : List Target) (otherwise otherwise' : Violation) :
    Alike (.noneOf targets otherwise) (.noneOf targets otherwise')
  | overflow : Alike .overflow .overflow

theorem Alike.refl (verdict : Verdict) : verdict.Alike verdict := by
  cases verdict with
  | passed => exact .passed
  | failed violations => exact .failed _ _
  | deferred target => exact .deferred fun _ => rfl
  | anyOf targets otherwise => exact .anyOf _ _ _
  | noneOf targets otherwise => exact .noneOf _ _ _
  | overflow => exact .overflow

theorem alike_require {condition condition' : Bool} (h : condition = condition')
    (otherwise otherwise' : Violation) :
    (require condition otherwise).Alike (require condition' otherwise') := by
  subst h
  cases condition with
  | true => exact .passed
  | false => exact .failed _ _

theorem alike_ofViolations {violations violations' : List Violation}
    (h : violations.length = violations'.length) :
    (ofViolations violations).Alike (ofViolations violations') := by
  unfold ofViolations
  cases violations with
  | nil =>
    obtain rfl := List.length_eq_zero_iff.1 h.symm
    exact .passed
  | cons violation rest =>
    cases violations' with
    | nil => cases h
    | cons violation' rest' => exact .failed _ _

end Verdict

namespace Constraint

/-- Constraints on the same types, which give verdicts that are alike on values that are alike. -/
structure Alike (c c' : Constraint) : Prop where
  types : c.types = c'.types
  judge : ∀ {v w : Json}, v.Alike w → (c.judge v).Alike (c'.judge w)

variable {v w : Json} {members members' : List (String × Json)}

/-! ## Verdicts -/

theorem alike_enum {choices choices' : List Json} (h : List.Forall₂ Json.Alike choices choices') :
    (enum choices).Alike (enum choices') := by
  refine ⟨rfl, fun {v w} hv => Verdict.alike_require ?_ _ _⟩
  induction h with
  | nil => rfl
  | cons hc _ ih => rw [List.any_cons, List.any_cons, hc.sameValue_eq hv, ih]

theorem alike_ref (h : v.Alike w) : (ref v).Alike (ref w) :=
  ⟨rfl, fun _ => .deferred (Target.alike_referenced h)⟩

theorem isListed_eq (fits : String → String → Bool) {names names' patterns patterns' : List String}
    (h : names.Perm names') (hp : patterns.Perm patterns') (name : String) :
    isListed fits names patterns name = isListed fits names' patterns' name := by
  unfold isListed
  rw [h.contains_eq, hp.any_eq]

theorem alike_additionalProperties {names names' patterns patterns' : List String}
    (h : names.Perm names') (hp : patterns.Perm patterns') :
    (additionalProperties names patterns).Alike (additionalProperties names' patterns') := by
  refine ⟨rfl, fun {v w} hv => ?_⟩
  cases hv.view with
  | obj _ _ hm =>
    have hnames := (map_fst_perm hm).filter fun n => !isListed Regex.finds names patterns n
    refine Verdict.alike_ofViolations ?_
    simp only [List.length_map, extraNames, isListed_eq Regex.finds h hp] at hnames ⊢
    exact hnames.length_eq
  | _ => exact .passed

theorem alike_required {names names' : List String} (h : names.Perm names') :
    (required names).Alike (required names') := by
  refine ⟨rfl, fun {v w} hv => Verdict.alike_ofViolations ?_⟩
  simp only [List.length_map, isNone_eq (hv.get? _)]
  exact (h.filter _).length_eq

/-- The values that a constraint lists are well-formed. -/
def WellFormed : Constraint → Prop
  | enum choices => ∀ choice ∈ choices, choice.WellFormed
  | _ => True

theorem Alike.refl {c : Constraint} (h : c.WellFormed) : c.Alike c := by
  cases c with
  | enum choices => exact alike_enum (List.forall₂_same.2 fun choice hm => .refl (h choice hm))
  | ref reference => exact ⟨rfl, fun _ => .refl _⟩
  | extension index => cases index <;> exact ⟨rfl, fun _ => .refl _⟩
  | required names => exact alike_required (.refl names)
  | additionalProperties names patterns =>
    exact alike_additionalProperties (.refl names) (.refl patterns)
  | type | disallow =>
    refine ⟨rfl, fun {v w} hv => ?_⟩
    simp only [Constraint.judge, hv.type_eq]
    exact .refl _
  | format name =>
    refine ⟨rfl, fun {v w} hv => Verdict.alike_require ?_ _ _⟩
    cases hv.view <;> rfl
  | uniqueItems =>
    refine ⟨rfl, fun {v w} hv => ?_⟩
    cases hv.view with
    | arr hi =>
      simp only [Constraint.judge, firstRepeat?_eq hi]
      exact .refl _
    | _ => exact .passed
  | itemCount | additionalItems =>
    refine ⟨rfl, fun {v w} hv => ?_⟩
    cases hv.view with
    | arr hi => exact Verdict.alike_require (by rw [hi.length_eq]) _ _
    | _ => exact .passed
  | dependency | schemaDependency =>
    refine ⟨rfl, fun {v w} hv => ?_⟩
    simp only [Constraint.judge, isNone_eq (hv.get? _)]
    exact .refl _
  | bound | divisibleBy | length | pattern =>
    refine ⟨rfl, fun {v w} hv => ?_⟩
    cases hv.view with
    | num n => exact .refl _
    | str s => exact .refl _
    | _ => exact .passed

/-! ## Constraints of a schema -/

theorem permBy_refl {cs : List Constraint} (h : ∀ c ∈ cs, c.WellFormed) : PermBy Alike cs cs :=
  .of_forall₂ (List.forall₂_same.2 fun c hc => .refl (h c hc))

theorem permBy_singleton {c c' : Constraint} (h : c.Alike c') : PermBy Alike [c] [c'] :=
  .of_forall₂ (.cons h .nil)

theorem permBy_nil : PermBy Alike [] [] :=
  .of_forall₂ .nil

theorem permBy_sized {make : Nat → Constraint} (hmake : ∀ n, (make n).WellFormed)
    (h : v.Alike w) : PermBy Alike (sized make v) (sized make w) := by
  unfold sized
  rw [h.asUnsigned?_eq]
  refine permBy_refl fun c hc => ?_
  obtain ⟨n, -, rfl⟩ := List.mem_map.1 hc
  exact hmake n

theorem namesOf_perm {x y : Option Json} (h : Option.Rel Json.Alike x y) :
    (namesOf x).Perm (namesOf y) := by
  cases h with
  | none => exact .nil
  | some hxy => exact map_fst_perm hxy.members_alike

theorem isRequired_eq (h : v.Alike w) : isRequired v = isRequired w := by
  unfold isRequired
  rw [bind_eq Json.Alike.asBool?_eq (h.get? "required")]

theorem filterMap_asString?_eq {items items' : List Json}
    (h : List.Forall₂ Json.Alike items items') :
    items.filterMap Json.asString? = items'.filterMap Json.asString? := by
  induction h with
  | nil => rfl
  | cons hv _ ih => rw [List.filterMap_cons, List.filterMap_cons, hv.asString?_eq, ih]

theorem schemas_eq {items items' : List Json} (h : List.Forall₂ Json.Alike items items') (k : Nat) :
    ((items.zipIdx k).filterMap fun (item, i) => if item.isObject then some i else none) =
      (items'.zipIdx k).filterMap fun (item, i) => if item.isObject then some i else none := by
  induction h generalizing k with
  | nil => rfl
  | cons hv _ ih =>
    rw [List.zipIdx_cons, List.zipIdx_cons, List.filterMap_cons, List.filterMap_cons, ih]
    simp only [hv.isObject_eq]

theorem ofJson_eq (h : v.Alike w) : TypeUnion.ofJson v = TypeUnion.ofJson w := by
  cases h.view with
  | arr hi => rw [TypeUnion.ofJson, TypeUnion.ofJson, filterMap_asString?_eq hi, schemas_eq hi]
  | _ => rfl

theorem permBy_ofDependency (property : String) (h : v.Alike w) :
    PermBy Alike (ofDependency property v) (ofDependency property w) := by
  cases h.view with
  | str name => exact permBy_singleton (.refl trivial)
  | arr hi =>
    rw [ofDependency, ofDependency, filterMap_asString?_eq hi]
    exact permBy_singleton (.refl trivial)
  | obj => exact permBy_singleton (.refl trivial)
  | _ => exact permBy_nil

/-- The keywords that impose constraints. -/
def keywords : List String :=
  ["type", "disallow", "enum", "$ref", "extends", "minimum", "maximum", "divisibleBy", "minLength",
    "maxLength", "minItems", "maxItems", "pattern", "format", "uniqueItems", "additionalItems",
    "properties", "additionalProperties", "dependencies"]

theorem ofMember_of_notMem {keyword : String} (h : keyword ∉ keywords) :
    ofMember members keyword v = [] := by
  fun_cases ofMember members keyword v
  all_goals first
    | rfl
    | exact absurd (by decide) h

theorem properties_permBy (h : v.Alike w) :
    PermBy Alike (ofMember members "properties" v) (ofMember members' "properties" w) := by
  cases h.view with
  | @obj properties properties' _ _ hp =>
    have hnames : ((properties.filter fun p => isRequired p.2).map Prod.fst).Perm
        ((properties'.filter fun p => isRequired p.2).map Prod.fst) :=
      map_fst_perm (hp.filter fun _ _ hm => isRequired_eq hm.2)
    rw [ofMember, ofMember]
    generalize (properties.filter fun p => isRequired p.2).map Prod.fst = names at hnames ⊢
    generalize (properties'.filter fun p => isRequired p.2).map Prod.fst = names' at hnames ⊢
    rw [hnames.isEmpty_eq]
    split
    · exact permBy_nil
    · exact permBy_singleton (alike_required hnames)
  | _ => exact permBy_nil

theorem additionalItems_permBy (h : Around members members' v w) :
    PermBy Alike (ofMember members "additionalItems" v)
      (ofMember members' "additionalItems" w) := by
  have hitems := h.lookup "items"
  cases h.value.view with
  | bool b =>
    cases b with
    | true => exact permBy_nil
    | false =>
      rw [ofMember, ofMember]
      generalize Json.lookup "items" members = x at hitems ⊢
      generalize Json.lookup "items" members' = y at hitems ⊢
      cases hitems with
      | none => exact permBy_nil
      | some hxy =>
        cases hxy.view with
        | arr hi =>
          simp only [hi.length_eq]
          exact permBy_singleton (.refl trivial)
        | _ => exact permBy_nil
  | _ => exact permBy_nil

theorem extends_permBy (h : v.Alike w) :
    PermBy Alike (ofMember members "extends" v) (ofMember members' "extends" w) := by
  cases h.view with
  | obj => exact permBy_singleton (.refl trivial)
  | arr hi =>
    rw [ofMember, ofMember, hi.length_eq]
    refine permBy_refl fun c hc => ?_
    obtain ⟨i, -, rfl⟩ := List.mem_map.1 hc
    trivial
  | _ => exact permBy_nil

theorem additionalProperties_permBy (h : Around members members' v w) :
    PermBy Alike (ofMember members "additionalProperties" v)
      (ofMember members' "additionalProperties" w) := by
  cases h.value.view with
  | bool b =>
    cases b with
    | true => exact permBy_nil
    | false =>
      exact permBy_singleton (alike_additionalProperties (namesOf_perm (h.lookup _))
        (namesOf_perm (h.lookup _)))
  | _ => exact permBy_nil

theorem dependencies_permBy (h : v.Alike w) :
    PermBy Alike (ofMember members "dependencies" v) (ofMember members' "dependencies" w) := by
  cases h.view with
  | obj _ _ hp =>
    refine hp.flatMap ?_
    rintro ⟨property, x⟩ ⟨_, y⟩ ⟨rfl, hxy⟩
    exact permBy_ofDependency property hxy
  | _ => exact permBy_nil

/-- Whether a bound is exclusive is said by another member. -/
theorem permBy_bound (h : Around members members' v w) (side : Side) (limit : Number)
    (flag : String) :
    PermBy Alike
      [bound side limit (((Json.lookup flag members).bind Json.asBool?).getD false)]
      [bound side limit (((Json.lookup flag members').bind Json.asBool?).getD false)] := by
  rw [bind_eq Json.Alike.asBool?_eq (h.lookup flag)]
  exact permBy_singleton (.refl trivial)

/-- **The constraints of one keyword are alike.** -/
theorem ofMember_permBy (h : Around members members' v w) (keyword : String) :
    PermBy Alike (ofMember members keyword v) (ofMember members' keyword w) := by
  have hv := h.value
  by_cases hk : keyword ∉ keywords
  · rw [ofMember_of_notMem hk, ofMember_of_notMem hk]
    exact permBy_nil
  simp only [keywords, List.mem_cons, List.not_mem_nil, or_false, not_not] at hk
  -- One case for each keyword, in the order of `keywords`.
  rcases hk with rfl | rfl | rfl | rfl | rfl | rfl | rfl | rfl | rfl | rfl | rfl | rfl | rfl | rfl |
    rfl | rfl | rfl | rfl | rfl
  · rw [ofMember, ofMember, ofJson_eq hv]
    exact permBy_singleton (.refl trivial)
  · rw [ofMember, ofMember, ofJson_eq hv]
    exact permBy_singleton (.refl trivial)
  · cases hv.view with
    | arr hi => exact permBy_singleton (alike_enum hi)
    | _ => exact permBy_nil
  · exact permBy_singleton (alike_ref hv)
  · exact extends_permBy hv
  · cases hv.view with
    | num n => exact permBy_bound h _ n _
    | _ => exact permBy_nil
  · cases hv.view with
    | num n => exact permBy_bound h _ n _
    | _ => exact permBy_nil
  · cases hv.view with
    | num n => exact permBy_singleton (.refl trivial)
    | _ => exact permBy_nil
  · exact permBy_sized (fun _ => trivial) hv
  · exact permBy_sized (fun _ => trivial) hv
  · exact permBy_sized (fun _ => trivial) hv
  · exact permBy_sized (fun _ => trivial) hv
  · cases hv.view with
    | str source => exact permBy_singleton (.refl trivial)
    | _ => exact permBy_nil
  · cases hv.view with
    | str name => exact permBy_singleton (.refl trivial)
    | _ => exact permBy_nil
  · cases hv.view with
    | bool b =>
      cases b with
      | true => exact permBy_singleton (.refl trivial)
      | false => exact permBy_nil
    | _ => exact permBy_nil
  · exact additionalItems_permBy h
  · exact properties_permBy hv
  · exact additionalProperties_permBy h
  · exact dependencies_permBy hv

/-- **Schemas that are alike impose constraints that are alike.** -/
theorem ofSchema_permBy (h : v.Alike w) : PermBy Alike (ofSchema v) (ofSchema w) := by
  cases h.view with
  | obj hn hn' hp =>
    refine hp.flatMap ?_
    rintro ⟨keyword, x⟩ ⟨_, y⟩ ⟨rfl, hxy⟩
    exact ofMember_permBy ⟨hxy, lookup_alike hn hn' hp⟩ keyword
  | _ => exact permBy_nil

theorem forType_permBy (h : v.Alike w) (t : NodeType) :
    PermBy Alike (forType v t) (forType w t) :=
  (ofSchema_permBy h).filter fun c c' hc => by rw [hc.types]

end Constraint

/-! ## Schemas of children -/

namespace Routing

variable {v w : Json}

theorem hasSchema_eq (h : v.Alike w) (keyword : String) :
    hasSchema v keyword = hasSchema w keyword := by
  have hget := h.get? keyword
  unfold hasSchema
  generalize v.get? keyword = x at hget ⊢
  generalize w.get? keyword = y at hget ⊢
  cases hget with
  | none => rfl
  | some hxy => exact hxy.isObject_eq

theorem of_eq (h : v.Alike w) (t : NodeType) : Routing.of t v = Routing.of t w := by
  unfold of
  simp only [isSome_eq (h.get? _), hasSchema_eq h]

theorem itemTargets_eq (h : v.Alike w) (i : Nat) : itemTargets v i = itemTargets w i := by
  have hget := h.get? "items"
  unfold itemTargets
  rw [hasSchema_eq h]
  generalize v.get? "items" = x at hget ⊢
  generalize w.get? "items" = y at hget ⊢
  cases hget with
  | none => rfl
  | some hxy =>
    cases hxy.view with
    | arr hi => simp only [hi.length_eq]
    | _ => rfl

theorem listedTargets_perm (h : v.Alike w) (fits : String → String → Bool) (name : String) :
    (listedTargets fits v name).Perm (listedTargets fits w name) := by
  have hproperties := h.get? "properties"
  have hpatterns := h.get? "patternProperties"
  have hown : ((v.get? "properties").bind fun p => p.get? name).isSome =
      ((w.get? "properties").bind fun p => p.get? name).isSome := by
    generalize v.get? "properties" = x at hproperties ⊢
    generalize w.get? "properties" = y at hproperties ⊢
    cases hproperties with
    | none => rfl
    | some hxy => exact isSome_eq (hxy.get? name)
  have hnames : ((((v.get? "patternProperties").map Json.members).getD []).map Prod.fst).Perm
      ((((w.get? "patternProperties").map Json.members).getD []).map Prod.fst) := by
    generalize v.get? "patternProperties" = x at hpatterns ⊢
    generalize w.get? "patternProperties" = y at hpatterns ⊢
    cases hpatterns with
    | none => exact .nil
    | some hxy => exact map_fst_perm hxy.members_alike
  unfold listedTargets
  rw [hown]
  exact .append_left _ ((hnames.filter _).map _)

theorem memberTargets_perm (h : v.Alike w) (fits : String → String → Bool) (name : String) :
    (memberTargets fits v name).Perm (memberTargets fits w name) := by
  have hlisted := listedTargets_perm h fits name
  unfold memberTargets
  simp only [hlisted.isEmpty_eq, hasSchema_eq h]
  split
  · exact .refl _
  · exact hlisted

/-- **The schemas for a child are at the same places**, in some order. -/
theorem targets_perm (h : v.Alike w) (r : Routing) (step : PathStep) :
    (r.targets v step).Perm (r.targets w step) := by
  cases r with
  | none => exact .refl _
  | items =>
    cases step with
    | index i => exact .of_eq (itemTargets_eq h i)
    | field name => exact .refl _
  | members =>
    cases step with
    | index i => exact .refl _
    | field name => exact memberTargets_perm h Regex.finds name

end Routing

end JsonSchema
