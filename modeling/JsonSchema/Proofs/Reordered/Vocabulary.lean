import JsonSchema.Proofs.Reordered.Schema
import JsonSchema.Proofs.Vocabulary
import Mathlib

/-!
# Checks do not depend on the order of members

A rule ignores the order of members if it takes the same steps for documents that are alike, in
some order. A check by such rules finds the same in both, in some order, and so accepts both or
neither of them.

* `Rule.IgnoresOrder`: the property of one rule.
* `Vocabulary.ignoresOrder_of_mem_standard`: the standard rules have it.
* `Vocabulary.findingsAt_perm`: a whole check, from the rules.
* `Vocabulary.findings_reordered`: reordering a document reorders what the standard check finds.
-/

namespace JsonSchema

open Json

namespace Rule

variable {value value' : Json} {members members' : List (String × Json)}

/-- The same complaint, or checks of schemas that are alike at the same place. -/
inductive Step.Alike : Step → Step → Prop
  | report (complaint : Complaint) : Alike (.report complaint) (.report complaint)
  | nested (tokens : List (List Char)) {value value' : Json} (h : value.Alike value') :
    Alike (.nested tokens value) (.nested tokens value')

/-- A rule takes the same steps for documents that are alike, in some order. -/
def IgnoresOrder (rule : Rule) : Prop :=
  ∀ {members members' value value'}, Around members members' value value' →
    PermBy Step.Alike (rule.run value members).steps (rule.run value' members').steps ∧
      (rule.run value members).failure = (rule.run value' members').failure

theorem permBy_report (complaints : List Complaint) :
    PermBy Step.Alike (complaints.map .report) (complaints.map .report) :=
  .of_forall₂ (List.forall₂_same.2 fun step hs => by
    obtain ⟨complaint, -, rfl⟩ := List.mem_map.1 hs
    exact .report complaint)

theorem permBy_ite (condition : Bool) (complaint : Complaint) :
    PermBy Step.Alike (if condition then [.report complaint] else [])
      (if condition then [.report complaint] else []) := by
  cases condition with
  | true => exact permBy_report [complaint]
  | false => exact permBy_report []

theorem permBy_mismatch (expected : List NodeType) (h : value.Alike value') :
    PermBy Step.Alike (mismatch expected value) (mismatch expected value') := by
  rw [mismatch, mismatch, h.type_eq]
  exact permBy_report [.wrongType expected (NodeType.of value')]

/-! ## Rules that only complain -/

theorem ignoresOrder_typed {expected : List NodeType}
    {complaints : Json → List (String × Json) → List Complaint}
    (h : ∀ {members members' value value'}, Around members members' value value' →
      complaints value members = complaints value' members') :
    (typed expected complaints).IgnoresOrder := by
  intro members members' value value' ha
  unfold typed
  simp only [ha.value.type_eq, h ha]
  split
  · exact ⟨permBy_report _, rfl⟩
  · exact ⟨permBy_mismatch expected ha.value, rfl⟩

theorem ignoresOrder_ofType (expected : List NodeType) : (ofType expected).IgnoresOrder :=
  ignoresOrder_typed fun _ => rfl

theorem ignoresOrder_uri : uri.IgnoresOrder :=
  ignoresOrder_typed fun h => by simp only [Reference.ofJson_eq h.value]

theorem ignoresOrder_pattern : pattern.IgnoresOrder :=
  ignoresOrder_typed fun h => by simp only [h.value.asString?_eq]

theorem forall₂_itemsOf (h : value.Alike value') :
    List.Forall₂ Json.Alike (itemsOf value) (itemsOf value') := by
  cases h.view with
  | arr hi => exact hi
  | _ => exact .nil

theorem isEmpty_eq {α β : Type} {R : α → β → Prop} {xs : List α} {ys : List β}
    (h : List.Forall₂ R xs ys) : xs.isEmpty = ys.isEmpty := by
  cases h <;> rfl

theorem ignoresOrder_choices : choices.IgnoresOrder :=
  ignoresOrder_typed fun h => by
    have hi := forall₂_itemsOf h.value
    simp only [isEmpty_eq hi, firstRepeat?_eq hi]

theorem ignoresOrder_positive : positive.IgnoresOrder :=
  ignoresOrder_typed fun h => by cases h.value.view <;> rfl

theorem ignoresOrder_flagOf (keyword bound : String) : (flagOf keyword bound).IgnoresOrder :=
  ignoresOrder_typed fun h => by simp only [isSome_eq (h.lookup bound)]

theorem sizeComplaints_eq (h : value.Alike value') :
    sizeComplaints value = sizeComplaints value' := by
  cases h.view <;> rfl

theorem ignoresOrder_size : size.IgnoresOrder := by
  intro members members' value value' h
  simp only [size, sizeComplaints_eq h.value]
  exact ⟨permBy_report _, trivial⟩

theorem ignoresOrder_leastSize (keyword upper : String) :
    (leastSize keyword upper).IgnoresOrder := by
  intro members members' value value' h
  simp only [leastSize, sizeComplaints_eq h.value, h.value.asUnsigned?_eq,
    bind_eq Alike.asUnsigned?_eq (h.lookup upper)]
  exact ⟨permBy_report _, trivial⟩

/-! ## Rules that have schemas checked -/

theorem permBy_nestedItems {items items' : List Json} (h : List.Forall₂ Json.Alike items items') :
    PermBy Step.Alike (nestedItems items) (nestedItems items') :=
  .of_forall₂ (PermBy.forall₂_mapIdx h fun _ _ _ h => .nested _ h)

theorem permBy_nestedMembers (h : PermBy (Named Json.Alike) members members') :
    PermBy Step.Alike (nestedMembers members) (nestedMembers members') := by
  refine h.map ?_
  rintro ⟨name, v⟩ ⟨_, w⟩ ⟨rfl, h⟩
  exact .nested _ h

theorem permBy_nested (tokens : List (List Char)) (h : value.Alike value') :
    PermBy Step.Alike [.nested tokens value] [.nested tokens value'] :=
  .of_forall₂ (.cons (.nested tokens h) .nil)

theorem ignoresOrder_schemaMap : schemaMap.IgnoresOrder := by
  intro members members' value value' h
  have hv := h.value
  cases hv.view with
  | obj _ _ hp => exact ⟨permBy_nestedMembers hp, rfl⟩
  | _ => exact ⟨permBy_mismatch _ hv, rfl⟩

theorem ignoresOrder_patternMap : patternMap.IgnoresOrder := by
  intro members members' value value' h
  have hv := h.value
  cases hv.view with
  | obj _ _ hp =>
    refine ⟨hp.flatMap ?_, rfl⟩
    rintro ⟨name, v⟩ ⟨_, w⟩ ⟨rfl, h⟩
    exact (permBy_report _).append (permBy_nested _ h)
  | _ => exact ⟨permBy_mismatch _ hv, rfl⟩

theorem ignoresOrder_boolOrSchema : boolOrSchema.IgnoresOrder := by
  intro members members' value value' h
  have hv := h.value
  cases hv.view with
  | obj => exact ⟨permBy_nested [] hv, rfl⟩
  | bool => exact ⟨permBy_report [], rfl⟩
  | _ => exact ⟨permBy_mismatch _ hv, rfl⟩

theorem ignoresOrder_schemaOrList : schemaOrList.IgnoresOrder := by
  intro members members' value value' h
  have hv := h.value
  cases hv.view with
  | obj => exact ⟨permBy_nested [] hv, rfl⟩
  | arr hi => exact ⟨permBy_nestedItems hi, rfl⟩
  | _ => exact ⟨permBy_mismatch _ hv, rfl⟩

theorem permBy_unionElement (i : Nat) (h : value.Alike value') :
    PermBy Step.Alike (unionElement i value) (unionElement i value') := by
  cases h.view with
  | str name => exact permBy_report _
  | obj => exact permBy_nested _ h
  | _ => exact permBy_report [_]

theorem ignoresOrder_typeUnion : typeUnion.IgnoresOrder := by
  intro members members' value value' h
  have hv := h.value
  cases hv.view with
  | str name => exact ⟨permBy_report _, rfl⟩
  | @arr items items' hi =>
    have helements : PermBy Step.Alike (items.mapIdx unionElement).flatten
        (items'.mapIdx unionElement).flatten := by
      have hlists := PermBy.of_forall₂ (PermBy.forall₂_mapIdx hi fun i _ _ h =>
        permBy_unionElement i h)
      rw [← List.flatMap_id, ← List.flatMap_id]
      exact hlists.flatMap fun _ _ h => h
    simp only [typeUnion, isEmpty_eq hi, firstRepeat?_eq hi]
    exact ⟨(permBy_ite _ _).append (helements.append (permBy_ite _ _)), trivial⟩
  | _ => exact ⟨permBy_mismatch _ hv, rfl⟩

theorem all_isString_eq {items items' : List Json} (h : List.Forall₂ Json.Alike items items') :
    items.all Json.isString = items'.all Json.isString := by
  induction h with
  | nil => rfl
  | cons hv _ ih => rw [List.all_cons, List.all_cons, hv.isString_eq, ih]

theorem permBy_dependency (name : String) (h : value.Alike value') :
    PermBy Step.Alike (dependency name value) (dependency name value') := by
  cases h.view with
  | str => exact permBy_report []
  | arr hi =>
    rw [dependency, dependency, all_isString_eq hi]
    split
    · exact permBy_report []
    · exact permBy_report [_]
  | obj => exact permBy_nested _ h
  | _ => exact permBy_report [_]

theorem ignoresOrder_dependencies : dependencies.IgnoresOrder := by
  intro members members' value value' h
  have hv := h.value
  cases hv.view with
  | obj _ _ hp =>
    refine ⟨hp.flatMap ?_, rfl⟩
    rintro ⟨name, v⟩ ⟨_, w⟩ ⟨rfl, h⟩
    exact permBy_dependency name h
  | _ => exact ⟨permBy_mismatch _ hv, rfl⟩

end Rule

namespace Vocabulary

variable {voc : Vocabulary} {d d' : Json}

/-- **The standard rules ignore the order of members.** -/
theorem ignoresOrder_of_mem_standard {keyword : String} {rule : Rule}
    (h : (keyword, rule) ∈ standard.rules) : rule.IgnoresOrder := by
  simp only [standard, List.mem_cons, Prod.mk.injEq, List.not_mem_nil] at h
  -- One case for each keyword of the table.
  repeat' rcases h with ⟨-, rfl⟩ | h
  all_goals
    first
    | exact Rule.ignoresOrder_uri
    | exact Rule.ignoresOrder_ofType _
    | exact Rule.ignoresOrder_schemaMap
    | exact Rule.ignoresOrder_patternMap
    | exact Rule.ignoresOrder_boolOrSchema
    | exact Rule.ignoresOrder_schemaOrList
    | exact Rule.ignoresOrder_typeUnion
    | exact Rule.ignoresOrder_dependencies
    | exact Rule.ignoresOrder_choices
    | exact Rule.ignoresOrder_positive
    | exact Rule.ignoresOrder_pattern
    | exact Rule.ignoresOrder_flagOf _ _
    | exact Rule.ignoresOrder_leastSize _ _
    | exact Rule.ignoresOrder_size

/-! ## A whole check -/

/-- What a check finds by one step of the rule of a keyword. -/
def findingsOf (voc : Vocabulary) (pointer : List Char) (keyword : String) :
    Rule.Step → List Finding
  | .report complaint => [⟨pointer, .invalidKeyword keyword complaint⟩]
  | .nested tokens nested =>
    voc.findingsAt (tokens.foldl Pointer.child (Pointer.child pointer keyword.toList)) nested

/-- What a check finds by one member of a schema. -/
def findingsBy (voc : Vocabulary) (pointer : List Char) (members : List (String × Json))
    (m : String × Json) : List Finding :=
  match voc.rule? m.1 with
  | none => [⟨pointer, .unknownKeyword m.1⟩]
  | some rule =>
    (rule.run m.2 members).steps.flatMap (voc.findingsOf pointer m.1) ++
      (rule.run m.2 members).failure.toList.map fun reason => ⟨pointer, .ruleFailed m.1 reason⟩

theorem findingsAt_obj (voc : Vocabulary) (pointer : List Char) (members : List (String × Json)) :
    voc.findingsAt pointer (.obj members) = members.flatMap (voc.findingsBy pointer members) := by
  rw [findingsAt]
  refine (List.flatMap_subtype (g := voc.findingsBy pointer members) fun m hm => ?_).trans
    (by rw [List.unattach_attach])
  simp only [findingsBy]
  cases voc.rule? m.1 with
  | none => rfl
  | some rule =>
    simp only
    refine congrArg (· ++ _) ?_
    refine (List.flatMap_subtype (g := voc.findingsOf pointer m.1) fun step hs => ?_).trans
      (by rw [List.unattach_attach])
    cases step <;> rfl

/-- **A check finds the same in documents that are alike**, if its rules ignore the order. -/
theorem findingsAt_perm (hrules : ∀ keyword rule, voc.rule? keyword = some rule → rule.IgnoresOrder)
    (h : d.Alike d') (pointer : List Char) :
    (voc.findingsAt pointer d).Perm (voc.findingsAt pointer d') := by
  induction hn : d.size using Nat.strongRecOn generalizing d d' pointer with
  | ind n ih =>
    have hview := h.view
    cases hview with
    | @obj members members' hnames hnames' hp =>
      rw [findingsAt_obj, findingsAt_obj]
      refine hp.flatMap_perm fun m hm m' hm' => ?_
      obtain ⟨hname, hvalue⟩ := hm'
      have haround : Around members members' m.2 m'.2 :=
        ⟨hvalue, lookup_alike hnames hnames' hp⟩
      unfold findingsBy
      rw [← hname]
      cases hr : voc.rule? m.1 with
      | none => exact .refl _
      | some rule =>
        obtain ⟨hsteps, hfailure⟩ := hrules m.1 rule hr haround
        simp only [hfailure]
        refine .append_right _ (hsteps.flatMap_perm fun step hs step' halike => ?_)
        cases halike with
        | report complaint => exact .refl _
        | @nested tokens v v' hv =>
          -- What a rule has checked is no larger than the value of its keyword.
          have hsize : v.size < n := by
            have h₁ := rule.within m.2 members tokens v hs
            have h₂ := size_le_sizeMembers hm
            rw [← hn, size]
            omega
          exact ih v.size hsize hv _ rfl
    | arr => simp [findingsAt, NodeType.of]
    | _ => exact .refl _

/-- **The standard check finds the same in documents that are alike**, in some order. -/
theorem findings_standard_perm (h : d.Alike d') :
    (standard.findings d).Perm (standard.findings d') :=
  findingsAt_perm (fun _ _ hr => ignoresOrder_of_mem_standard (mem_rules_of_rule? hr)) h []

theorem accepts_standard_eq (h : d.Alike d') : standard.accepts d = standard.accepts d' := by
  unfold accepts
  rw [(findings_standard_perm h).any_eq]

/-- **A check does not depend on the order of members.** Permuting the members of objects, at any
depth, permutes what the standard check finds, and a document is accepted if it was before. -/
theorem findings_reordered (hd : d.WellFormed) (h : d.Reordered d') :
    (standard.findings d).Perm (standard.findings d') ∧
      standard.accepts d = standard.accepts d' :=
  ⟨findings_standard_perm (h.alike hd), accepts_standard_eq (h.alike hd)⟩

/-- A schema whose bounds contradict each other. -/
def bounded : Json :=
  .obj [("minLength", .num (.int 3 (by decide))), ("maxLength", .num (.int 2 (by decide)))]

def bounded' : Json :=
  .obj [("maxLength", .num (.int 2 (by decide))), ("minLength", .num (.int 3 (by decide)))]

/-- A document with findings in it and below it. -/
def faulty : Json :=
  .obj [("exclusiveMinimum", .bool true), ("properties", .obj [("a", bounded), ("b", .null)])]

def faulty' : Json :=
  .obj [("properties", .obj [("b", .null), ("a", bounded')]), ("exclusiveMinimum", .bool true)]

theorem reordered_faulty : faulty.Reordered faulty' := by
  have hproperties : Reordered (.obj [("a", bounded), ("b", .null)])
      (.obj [("b", .null), ("a", bounded')]) := by
    refine reordered_obj_iff.2 ⟨_, ⟨[("a", bounded'), ("b", .null)], ?_, .swap _ _ _⟩, rfl⟩
    exact .cons ⟨rfl, .obj (.swap _ _ _)⟩ (.cons ⟨rfl, .refl _⟩ .nil)
  refine reordered_obj_iff.2 ⟨_, ⟨[("exclusiveMinimum", .bool true), ("properties",
    .obj [("b", .null), ("a", bounded')])], ?_, .swap _ _ _⟩, rfl⟩
  exact .cons ⟨rfl, .refl _⟩ (.cons ⟨rfl, hproperties⟩ .nil)

/-- The document has three findings, which come in the reverse order after reordering. -/
theorem findings_reordered_faulty :
    (standard.findings faulty).Perm (standard.findings faulty') ∧
      standard.accepts faulty = standard.accepts faulty' ∧
      (standard.findings faulty).length = 3 ∧
      standard.findings faulty' = (standard.findings faulty).reverse := by
  have hwf : faulty.WellFormed := by
    simp [faulty, bounded, WellFormed, WellFormedMembers]
  obtain ⟨hperm, haccepts⟩ := findings_reordered hwf reordered_faulty
  exact ⟨hperm, haccepts, by cbv, by cbv⟩

end Vocabulary

end JsonSchema
