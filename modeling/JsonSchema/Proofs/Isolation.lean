import JsonSchema.Proofs.Registry
import JsonSchema.Proofs.Reordered.Vocabulary
import Mathlib

/-!
# Rules that break down

A check keeps one list of findings, to which the rules of all keywords add, and a rule that has
nested schemas checked is at work while other rules are. Any of them may break down at any point.
A break-down goes no further than the rule itself: what was found before stays, one more finding
says which rule broke down where, and the check goes on.

This holds for any rules. They need not keep to the value of their keyword, as those of a
`Vocabulary` do, but may also have the values of other keywords checked, or new schemas. All that is
asked is that a check does not go from one nested schema to the next without end.

* `RuleTable.Ends`: checks that come to an end. Those of vocabularies do.
* `RuleTable.checkAt`: a check as it is run, with one list of findings and with break-downs.
* `RuleTable.findingsAt`: what is found. For vocabularies this is `Vocabulary.findingsAt`.
* `RuleTable.callsAt`: the invocations of rules in a check.
* `RuleTable.attributedAt`: findings with the keywords whose rules led to them.
* `RuleTable.break_downs_isolated`: all of this about the check of a document.
-/

namespace JsonSchema

variable {pointer : List Char} {document schema nested : Json} {keyword : String}
  {outcome : Rule.Outcome} {tokens : List (List Char)}

/-- Whether a finding is that a rule broke down. -/
def Finding.isRuleFailed (f : Finding) : Bool :=
  match f.cause with
  | .ruleFailed _ _ => true
  | _ => false

/-! ## Checks that are run -/

/-- A part of a check: it adds to the findings so far, and may break down. -/
abbrev Checking := EStateM String (List Finding) Unit

namespace Checking

variable {α : Type} {m m' : Checking} {found found' : List Finding} {failure : Option String}

/-- Adds a finding. -/
def push (f : Finding) : Checking :=
  modify (· ++ [f])

/-- Takes the steps of a rule, one after the other, and breaks down if the rule does. -/
def perform (outcome : Rule.Outcome) (each : {step // step ∈ outcome.steps} → Checking) :
    Checking := do
  outcome.steps.attach.forM each
  match outcome.failure with
  | some reason => throw reason
  | none => pure ()

/-- Ends a break-down of the rule of a keyword. It becomes a finding. -/
def guarded (pointer : List Char) (keyword : String) (m : Checking) : Checking :=
  tryCatch m fun reason => push ⟨pointer, .ruleFailed keyword reason⟩

/-- Whatever was found before, a part of a check leaves it as it is and adds some findings. Then it
ends or breaks down. -/
def Records (m : Checking) (found : List Finding) (failure : Option String) : Prop :=
  ∀ before, m.run before =
    match failure with
    | none => .ok () (before ++ found)
    | some reason => .error reason (before ++ found)

theorem records_push (f : Finding) : Records (push f) [f] none := fun _ => rfl

theorem records_throw (reason : String) : Records (throw reason) [] (some reason) := fun before =>
  congrArg (EStateM.Result.error reason) (List.append_nil before).symm

theorem records_pure : Records (pure ()) [] none := fun before =>
  congrArg (EStateM.Result.ok ()) (List.append_nil before).symm

theorem Records.andThen (h : Records m found none) (h' : Records m' found' failure) :
    Records (do m; m') (found ++ found') failure := by
  intro before
  have hrun : (do m; m' : Checking).run before = m'.run (before ++ found) := by
    change EStateM.bind m (fun _ => m') before = _
    rw [EStateM.bind, show m before = _ from h before]
    rfl
  rw [hrun, h' (before ++ found), List.append_assoc]

theorem records_forM {as : List α} {f : α → Checking} {g : α → List Finding}
    (h : ∀ a ∈ as, Records (f a) (g a) none) : Records (as.forM f) (as.flatMap g) none := by
  induction as with
  | nil => exact records_pure
  | cons a rest ih =>
    obtain ⟨ha, hrest⟩ := List.forall_mem_cons.1 h
    exact ha.andThen (ih hrest)

/-- What a rule records before it ends or breaks down is what its steps record. -/
theorem records_perform {outcome : Rule.Outcome}
    {each : {step // step ∈ outcome.steps} → Checking}
    {g : {step // step ∈ outcome.steps} → List Finding}
    (h : ∀ step, Records (each step) (g step) none) :
    Records (perform outcome each) (outcome.steps.attach.flatMap g) outcome.failure := by
  have hsteps : Records (outcome.steps.attach.forM each) (outcome.steps.attach.flatMap g) none :=
    records_forM fun step _ => h step
  unfold perform
  rw [← List.append_nil (outcome.steps.attach.flatMap g)]
  cases outcome.failure with
  | none => exact hsteps.andThen records_pure
  | some reason => exact hsteps.andThen (records_throw reason)

/-- **A break-down adds one finding to those that were recorded before**, and ends there. -/
theorem Records.guarded (h : Records m found failure) (pointer : List Char) (keyword : String) :
    Records (guarded pointer keyword m)
      (found ++ failure.toList.map fun reason => ⟨pointer, .ruleFailed keyword reason⟩) none := by
  intro before
  change EStateM.tryCatch m _ before = _
  rw [EStateM.tryCatch, show m before = _ from h before]
  cases failure with
  | none =>
    rw [Option.toList_none, List.map_nil, List.append_nil]
  | some reason =>
    rw [Option.toList_some, List.map_singleton, ← List.append_assoc]
    rfl

end Checking

/-! ## Any rules -/

/-- What a rule does for the value of its keyword among the members of a schema. -/
abbrev Rule.Behaviour := Json → List (String × Json) → Rule.Outcome

/-- Rules by keyword. They may have any schemas checked. -/
structure RuleTable where
  rule? : String → Option Rule.Behaviour

namespace RuleTable

open Checking

variable {table table' : RuleTable}

/-- Gives a keyword a rule, in place of the one it has. -/
def insert (table : RuleTable) (keyword : String) (behaviour : Rule.Behaviour) : RuleTable where
  rule? other := if other = keyword then some behaviour else table.rule? other

/-- The keywords of a schema, each with what its rule does, if it has one. -/
def invocations (table : RuleTable) (schema : Json) : List (String × Option Rule.Outcome) :=
  schema.members.map fun (keyword, value) =>
    (keyword, (table.rule? keyword).map fun behaviour => behaviour value schema.members)

/-- The one for a member. -/
def invocation (table : RuleTable) (m : {m // m ∈ schema.members}) :
    {i // i ∈ table.invocations schema} :=
  ⟨_, List.mem_map_of_mem m.2⟩

theorem attach_invocations (table : RuleTable) (schema : Json) :
    (table.invocations schema).attach = schema.members.attach.map table.invocation :=
  List.attach_map

/-- Some rule has `nested` checked in a check of `schema`. -/
def Nests (table : RuleTable) (nested schema : Json) : Prop :=
  ∃ keyword outcome tokens, (keyword, some outcome) ∈ table.invocations schema ∧
    .nested tokens nested ∈ outcome.steps

/-- A check of `schema` does not go from one nested schema to the next without end. -/
abbrev Ends (table : RuleTable) (schema : Json) : Prop :=
  Acc table.Nests schema

theorem Ends.below (h : table.Ends schema)
    (ho : (keyword, some outcome) ∈ table.invocations schema)
    (hs : .nested tokens nested ∈ outcome.steps) : table.Ends nested :=
  h.inv ⟨keyword, outcome, tokens, ho, hs⟩

/-- A schema that is checked again within its own check is checked without end. -/
theorem not_ends_of_nests_self (h : table.Nests schema schema) : ¬ table.Ends schema := by
  intro ends
  induction ends with
  | intro schema _ ih => exact ih schema h h

/-- Rules that have nothing larger checked than what stands in a schema come to an end. -/
theorem ends_of_size_le
    (h : ∀ keyword behaviour, table.rule? keyword = some behaviour →
      ∀ value members tokens nested, (keyword, value) ∈ members →
        .nested tokens nested ∈ (behaviour value members).steps →
          nested.size ≤ Json.sizeMembers members)
    (schema : Json) : table.Ends schema := by
  refine Subrelation.accessible (fun {nested schema} hn => ?_)
    (InvImage.accessible Json.size (Nat.lt_wfRel.wf.apply schema.size))
  obtain ⟨keyword, outcome, tokens, ho, hs⟩ := hn
  obtain ⟨m, hm, he⟩ := List.mem_map.1 ho
  obtain ⟨behaviour, hb, rfl⟩ := Option.map_eq_some_iff.1 (Prod.mk.inj he).2
  have hsize := h m.1 behaviour hb m.2 schema.members tokens nested hm hs
  cases schema with
  | obj members => exact Nat.lt_succ_of_le hsize
  | _ => cases hm

theorem isObject_of_mem_invocations {i : String × Option Rule.Outcome}
    (h : i ∈ table.invocations schema) : schema.isObject := by
  cases schema with
  | obj => rfl
  | _ => cases h

/-! ## Checks -/

/-- Checks `schema`, which stands at the place `pointer`. -/
def checkAt (table : RuleTable) (pointer : List Char) (schema : Json) (ends : table.Ends schema) :
    Checking :=
  if schema.isObject then
    (table.invocations schema).attach.forM fun
      | ⟨(keyword, none), _⟩ => push ⟨pointer, .unknownKeyword keyword⟩
      | ⟨(keyword, some outcome), ho⟩ =>
        guarded pointer keyword <| perform outcome fun
          | ⟨.report complaint, _⟩ => push ⟨pointer, .invalidKeyword keyword complaint⟩
          | ⟨.nested tokens nested, hs⟩ =>
            checkAt table (tokens.foldl Pointer.child (Pointer.child pointer keyword.toList)) nested
              (ends.below ho hs)
  else
    push ⟨pointer, .notASchema (NodeType.of schema)⟩
  termination_by (⟨schema, ends⟩ : {schema // Acc table.Nests schema})
  decreasing_by exact ⟨keyword, outcome, tokens, ho, hs⟩

/-- The findings of a check of `schema`, which stands at the place `pointer`. -/
def findingsAt (table : RuleTable) (pointer : List Char) (schema : Json)
    (ends : table.Ends schema) : List Finding :=
  if schema.isObject then
    (table.invocations schema).attach.flatMap fun
      | ⟨(keyword, none), _⟩ => [⟨pointer, .unknownKeyword keyword⟩]
      | ⟨(keyword, some outcome), ho⟩ =>
        (outcome.steps.attach.flatMap fun
          | ⟨.report complaint, _⟩ => [⟨pointer, .invalidKeyword keyword complaint⟩]
          | ⟨.nested tokens nested, hs⟩ =>
            findingsAt table (tokens.foldl Pointer.child (Pointer.child pointer keyword.toList))
              nested (ends.below ho hs)) ++
        outcome.failure.toList.map fun reason => ⟨pointer, .ruleFailed keyword reason⟩
  else
    [⟨pointer, .notASchema (NodeType.of schema)⟩]
  termination_by (⟨schema, ends⟩ : {schema // Acc table.Nests schema})
  decreasing_by exact ⟨keyword, outcome, tokens, ho, hs⟩

/-- The findings of a check of a document. -/
def findings (table : RuleTable) (document : Json) (ends : table.Ends document) : List Finding :=
  table.findingsAt [] document ends

/-- **A check that is run never breaks down**, and adds what is found to the findings so far. -/
theorem records_checkAt (pointer : List Char) (ends : table.Ends schema) :
    Records (table.checkAt pointer schema ends) (table.findingsAt pointer schema ends) none := by
  induction ends generalizing pointer with
  | intro schema _ ih =>
    rw [checkAt, findingsAt]
    split
    · refine records_forM ?_
      rintro ⟨⟨keyword, _ | outcome⟩, ho⟩ -
      · exact records_push _
      · refine (records_perform ?_).guarded pointer keyword
        rintro ⟨complaint | ⟨tokens, nested⟩, hs⟩
        · exact records_push _
        · exact ih nested ⟨keyword, outcome, tokens, ho, hs⟩ _
    · exact records_push _

end RuleTable

/-! ## Vocabularies -/

/-- The rules of a vocabulary. -/
def Vocabulary.table (voc : Vocabulary) : RuleTable where
  rule? keyword := (voc.rule? keyword).map Rule.run

namespace Vocabulary

/-- Checks with a vocabulary come to an end. -/
theorem ends_table (voc : Vocabulary) (schema : Json) : voc.table.Ends schema := by
  refine RuleTable.ends_of_size_le (fun _ _ hb value members tokens nested hm hs => ?_) schema
  obtain ⟨rule, -, rfl⟩ := Option.map_eq_some_iff.1 hb
  exact (rule.within value members tokens nested hs).trans (Json.size_le_sizeMembers hm)

/-- What is found by the invocation for a keyword, or instead of one. -/
def findingsFor (voc : Vocabulary) (pointer : List Char) (i : String × Option Rule.Outcome) :
    List Finding :=
  match i.2 with
  | none => [⟨pointer, .unknownKeyword i.1⟩]
  | some outcome =>
    outcome.steps.flatMap (voc.findingsOf pointer i.1) ++
      outcome.failure.toList.map fun reason => ⟨pointer, .ruleFailed i.1 reason⟩

theorem findingsAt_eq_flatMap_invocations (voc : Vocabulary) (pointer : List Char)
    (members : List (String × Json)) :
    voc.findingsAt pointer (.obj members) =
      (voc.table.invocations (.obj members)).flatMap (voc.findingsFor pointer) := by
  rw [findingsAt_obj, RuleTable.invocations, List.flatMap_map]
  refine List.flatMap_congr fun m _ => ?_
  simp only [table, findingsBy, findingsFor]
  cases voc.rule? m.1 <;> rfl

/-- **What is found with the rules of a vocabulary** is what its check finds. -/
theorem findingsAt_table (voc : Vocabulary) (pointer : List Char) (schema : Json)
    (ends : voc.table.Ends schema) :
    voc.table.findingsAt pointer schema ends = voc.findingsAt pointer schema := by
  induction ends generalizing pointer with
  | intro schema _ ih =>
    rw [RuleTable.findingsAt]
    cases schema with
    | obj members =>
      have hobject : (Json.obj members).isObject = true := rfl
      rw [if_pos hobject, findingsAt_eq_flatMap_invocations]
      refine (List.flatMap_subtype (g := voc.findingsFor pointer) ?_).trans
        (by rw [List.unattach_attach])
      rintro ⟨keyword, _ | outcome⟩ ho
      · rfl
      refine congrArg (· ++ _) ((List.flatMap_subtype (g := voc.findingsOf pointer keyword)
        fun step hs => ?_).trans (by rw [List.unattach_attach]))
      cases step with
      | report complaint => rfl
      | nested tokens nested => exact ih nested ⟨keyword, outcome, tokens, ho, hs⟩ _
    | _ => rw [findingsAt] <;> first | rfl | rintro _ ⟨⟩

/-- A check with a vocabulary that is run ends with the findings of the check. -/
theorem run_checkAt (voc : Vocabulary) (document : Json) :
    (voc.table.checkAt [] document (voc.ends_table document)).run [] =
      .ok () (voc.findings document) := by
  rw [findings, ← voc.findingsAt_table [] document (voc.ends_table document)]
  exact RuleTable.records_checkAt [] _ []

theorem table_insert (voc : Vocabulary) (keyword : String) (rule : Rule) :
    (voc.insert keyword rule).table = voc.table.insert keyword rule.run := by
  refine congrArg RuleTable.mk (funext fun other => ?_)
  by_cases h : other = keyword
  · rw [if_pos h, rule?, insert, List.lookup_cons, beq_iff_eq.2 h]
    rfl
  · rw [if_neg h, rule?, insert, List.lookup_cons, beq_eq_false_iff_ne.2 h]
    exact congrArg _ (Registry.lookup_filter_ne h voc.rules)

end Vocabulary

namespace RuleTable

open Checking

variable {table table' : RuleTable}

/-! ## Invocations -/

/-- The invocation of the rule of a keyword for a schema at a place. -/
structure Call (table : RuleTable) where
  place : List Char
  keyword : String
  outcome : Rule.Outcome
  ends {tokens : List (List Char)} {nested : Json} (h : .nested tokens nested ∈ outcome.steps) :
    table.Ends nested

namespace Call

/-- What an invocation does, up to its end or break-down. -/
def attempt (c : Call table) : Checking :=
  perform c.outcome fun
    | ⟨.report complaint, _⟩ => push ⟨c.place, .invalidKeyword c.keyword complaint⟩
    | ⟨.nested tokens nested, hs⟩ =>
      table.checkAt (tokens.foldl Pointer.child (Pointer.child c.place c.keyword.toList)) nested
        (c.ends hs)

/-- What is found in an invocation, before it ends or breaks down. -/
def found (c : Call table) : List Finding :=
  c.outcome.steps.attach.flatMap fun
    | ⟨.report complaint, _⟩ => [⟨c.place, .invalidKeyword c.keyword complaint⟩]
    | ⟨.nested tokens nested, hs⟩ =>
      table.findingsAt (tokens.foldl Pointer.child (Pointer.child c.place c.keyword.toList)) nested
        (c.ends hs)

/-- The finding that an invocation broke down. -/
def failure? (c : Call table) : Option Finding :=
  c.outcome.failure.map fun reason => ⟨c.place, .ruleFailed c.keyword reason⟩

theorem records_attempt (c : Call table) : Records c.attempt c.found c.outcome.failure := by
  refine records_perform ?_
  rintro ⟨complaint | ⟨tokens, nested⟩, hs⟩
  · exact records_push _
  · exact records_checkAt _ (c.ends hs)

end Call

/-- The invocations in a check of `schema`, which stands at the place `pointer`, in the order in
which they end. -/
def callsAt (table : RuleTable) (pointer : List Char) (schema : Json) (ends : table.Ends schema) :
    List (Call table) :=
  (table.invocations schema).attach.flatMap fun
    | ⟨(_, none), _⟩ => []
    | ⟨(keyword, some outcome), ho⟩ =>
      (outcome.steps.attach.flatMap fun
        | ⟨.report _, _⟩ => []
        | ⟨.nested tokens nested, hs⟩ =>
          callsAt table (tokens.foldl Pointer.child (Pointer.child pointer keyword.toList)) nested
            (ends.below ho hs)) ++
      [⟨pointer, keyword, outcome, ends.below ho⟩]
  termination_by (⟨schema, ends⟩ : {schema // Acc table.Nests schema})
  decreasing_by exact ⟨keyword, outcome, tokens, ho, hs⟩

/-- The invocations in a check of a document. -/
def calls (table : RuleTable) (document : Json) (ends : table.Ends document) : List (Call table) :=
  table.callsAt [] document ends

theorem infix_flatMap_of_mem {α β : Type} {as : List α} {a : α} {f : α → List β} {bs : List β}
    (h : a ∈ as) (he : f a = bs) : bs <:+: as.flatMap f := by
  rw [List.flatMap_def]
  exact List.infix_of_mem_flatten (List.mem_map.2 ⟨a, h, he⟩)

/-- What is found in an invocation for a schema, and the finding that it broke down. -/
theorem infix_findingsAt (pointer : List Char) (ends : table.Ends schema)
    (ho : (keyword, some outcome) ∈ table.invocations schema) :
    (⟨pointer, keyword, outcome, ends.below ho⟩ : Call table).found ++
        outcome.failure.toList.map (fun reason => ⟨pointer, .ruleFailed keyword reason⟩) <:+:
      table.findingsAt pointer schema ends := by
  rw [findingsAt, if_pos (isObject_of_mem_invocations ho)]
  refine infix_flatMap_of_mem (List.mem_attach _ ⟨_, ho⟩) (congrArg (· ++ _) ?_)
  refine List.flatMap_congr ?_
  rintro ⟨complaint | ⟨tokens, nested⟩, hs⟩ - <;> rfl

/-- **What is found in an invocation stays**, with the finding that the invocation broke down right
after it, if it did. -/
theorem infix_of_mem_callsAt {ends : table.Ends schema} {c : Call table}
    (h : c ∈ table.callsAt pointer schema ends) :
    c.found ++ c.failure?.toList <:+: table.findingsAt pointer schema ends := by
  induction ends generalizing pointer with
  | intro schema hacc ih =>
    rw [callsAt] at h
    obtain ⟨⟨⟨keyword, _ | outcome⟩, ho⟩, -, h⟩ := List.mem_flatMap.1 h
    · cases h
    have hin := infix_findingsAt pointer ⟨schema, hacc⟩ ho
    rcases List.mem_append.1 h with h | h
    · obtain ⟨⟨complaint | ⟨tokens, nested⟩, hs⟩, -, h⟩ := List.mem_flatMap.1 h
      · cases h
      refine (ih nested ⟨keyword, outcome, tokens, ho, hs⟩ h).trans (.trans ?_ hin)
      refine .trans ?_ (List.prefix_append _ _).isInfix
      exact infix_flatMap_of_mem (List.mem_attach _ ⟨_, hs⟩) rfl
    · obtain rfl := List.mem_singleton.1 h
      rwa [Call.failure?, Option.toList_map]

/-- **Each invocation that breaks down adds exactly one finding that says so.** -/
theorem filter_findingsAt_eq (pointer : List Char) (ends : table.Ends schema) :
    (table.findingsAt pointer schema ends).filter Finding.isRuleFailed =
      (table.callsAt pointer schema ends).filterMap Call.failure? := by
  induction ends generalizing pointer with
  | intro schema _ ih =>
    rw [findingsAt, callsAt]
    split
    · rw [List.filter_flatMap, List.filterMap_flatMap]
      refine List.flatMap_congr ?_
      rintro ⟨⟨keyword, _ | outcome⟩, ho⟩ -
      · rfl
      · simp only
        rw [List.filter_append, List.filterMap_append, List.filter_flatMap, List.filterMap_flatMap]
        refine congrArg₂ _ (List.flatMap_congr ?_) ?_
        · rintro ⟨complaint | ⟨tokens, nested⟩, hs⟩ -
          · rfl
          · exact ih nested ⟨keyword, outcome, tokens, ho, hs⟩ _
        · obtain ⟨steps, _ | reason⟩ := outcome <;> rfl
    · rename_i hobject
      rw [List.flatMap_eq_nil_iff.2 fun i _ => absurd (isObject_of_mem_invocations i.2) hobject]
      rfl

/-! ## Rules in place of others -/

/-- The findings of a check of `schema`, which stands at the place `pointer`, each with the
keywords whose rules led to it, after those of `outer`. -/
def attributedAt (table : RuleTable) (outer : List String) (pointer : List Char) (schema : Json)
    (ends : table.Ends schema) : List (List String × Finding) :=
  if schema.isObject then
    (table.invocations schema).attach.flatMap fun
      | ⟨(keyword, none), _⟩ => [(outer ++ [keyword], ⟨pointer, .unknownKeyword keyword⟩)]
      | ⟨(keyword, some outcome), ho⟩ =>
        (outcome.steps.attach.flatMap fun
          | ⟨.report complaint, _⟩ =>
            [(outer ++ [keyword], ⟨pointer, .invalidKeyword keyword complaint⟩)]
          | ⟨.nested tokens nested, hs⟩ =>
            attributedAt table (outer ++ [keyword])
              (tokens.foldl Pointer.child (Pointer.child pointer keyword.toList)) nested
              (ends.below ho hs)) ++
        outcome.failure.toList.map fun reason =>
          (outer ++ [keyword], ⟨pointer, .ruleFailed keyword reason⟩)
  else
    [(outer, ⟨pointer, .notASchema (NodeType.of schema)⟩)]
  termination_by (⟨schema, ends⟩ : {schema // Acc table.Nests schema})
  decreasing_by exact ⟨keyword, outcome, tokens, ho, hs⟩

/-- The findings of a check of a document with the keywords that led to them, the outermost
first. -/
def attributed (table : RuleTable) (document : Json) (ends : table.Ends document) :
    List (List String × Finding) :=
  table.attributedAt [] [] document ends

/-- Without the keywords, they are the findings of the check. -/
theorem map_attributedAt (outer : List String) (pointer : List Char) (ends : table.Ends schema) :
    (table.attributedAt outer pointer schema ends).map Prod.snd =
      table.findingsAt pointer schema ends := by
  induction ends generalizing outer pointer with
  | intro schema _ ih =>
    rw [attributedAt, findingsAt]
    split
    · rw [List.map_flatMap]
      refine List.flatMap_congr ?_
      rintro ⟨⟨keyword, _ | outcome⟩, ho⟩ -
      · rfl
      · simp only
        rw [List.map_append, List.map_flatMap, List.map_map]
        refine congrArg (· ++ _) (List.flatMap_congr ?_)
        rintro ⟨complaint | ⟨tokens, nested⟩, hs⟩ -
        · rfl
        · exact ih nested ⟨keyword, outcome, tokens, ho, hs⟩ _ _
    · rfl

/-- What is found by the invocation for a keyword, or instead of one. -/
def attributedBy (table : RuleTable) (outer : List String) (pointer : List Char)
    (ends : table.Ends schema) :
    {i // i ∈ table.invocations schema} → List (List String × Finding)
  | ⟨(keyword, none), _⟩ => [(outer ++ [keyword], ⟨pointer, .unknownKeyword keyword⟩)]
  | ⟨(keyword, some outcome), ho⟩ =>
    (outcome.steps.attach.flatMap fun
      | ⟨.report complaint, _⟩ =>
        [(outer ++ [keyword], ⟨pointer, .invalidKeyword keyword complaint⟩)]
      | ⟨.nested tokens nested, hs⟩ =>
        table.attributedAt (outer ++ [keyword])
          (tokens.foldl Pointer.child (Pointer.child pointer keyword.toList)) nested
          (ends.below ho hs)) ++
    outcome.failure.toList.map fun reason =>
      (outer ++ [keyword], ⟨pointer, .ruleFailed keyword reason⟩)

theorem attributedAt_of_isObject (outer : List String) (pointer : List Char)
    (ends : table.Ends schema) (h : schema.isObject) :
    table.attributedAt outer pointer schema ends =
      (table.invocations schema).attach.flatMap (table.attributedBy outer pointer ends) := by
  rw [attributedAt, if_pos h]
  refine List.flatMap_congr ?_
  rintro ⟨⟨keyword, _ | outcome⟩, ho⟩ -
  · rfl
  · refine congrArg (· ++ _) (List.flatMap_congr ?_)
    rintro ⟨complaint | ⟨tokens, nested⟩, hs⟩ - <;> rfl

/-- What is found by an invocation is found under its keyword. -/
theorem prefix_of_mem_attributedBy {outer : List String} {ends : table.Ends schema}
    {i : {i // i ∈ table.invocations schema}} {t : List String × Finding}
    (h : t ∈ table.attributedBy outer pointer ends i) : outer ++ [i.1.1] <+: t.1 := by
  induction ends generalizing outer pointer with
  | intro schema _ ih =>
    obtain ⟨⟨keyword, _ | outcome⟩, ho⟩ := i
    · rw [List.mem_singleton.1 h]
    rcases List.mem_append.1 h with h | h
    · obtain ⟨⟨complaint | ⟨tokens, nested⟩, hs⟩, -, h⟩ := List.mem_flatMap.1 h
      · rw [List.mem_singleton.1 h]
      simp only at h
      by_cases hobject : nested.isObject
      · rw [attributedAt_of_isObject _ _ _ hobject] at h
        obtain ⟨i, -, h⟩ := List.mem_flatMap.1 h
        exact (List.prefix_append _ _).trans (ih nested ⟨keyword, outcome, tokens, ho, hs⟩ h)
      · rw [attributedAt, if_neg hobject] at h
        rw [List.mem_singleton.1 h]
    · obtain ⟨reason, -, rfl⟩ := List.mem_map.1 h
      exact List.prefix_rfl

theorem filter_attributedBy_eq_nil {outer : List String} {ends : table.Ends schema}
    (i : {i // i ∈ table.invocations schema}) :
    (table.attributedBy outer pointer ends i).filter (fun t => i.1.1 ∉ t.1) = [] := by
  refine List.filter_eq_nil_iff.2 fun t ht hnot => of_decide_eq_true hnot ?_
  refine (prefix_of_mem_attributedBy ht).subset ?_
  exact List.mem_append_right _ (List.mem_singleton_self _)

/-- Invocations that do the same, if the nested schemas are found to have the same. -/
theorem filter_attributedBy_eq {outer : List String} {ends : table.Ends schema}
    {ends' : table'.Ends schema} {i : {i // i ∈ table.invocations schema}}
    {i' : {i // i ∈ table'.invocations schema}} (hi : i'.1 = i.1)
    (h : ∀ {nested : Json}, table.Nests nested schema → ∀ (outer : List String)
      (pointer : List Char) (ends : table.Ends nested) (ends' : table'.Ends nested),
        (table'.attributedAt outer pointer nested ends').filter (fun t => keyword ∉ t.1) =
          (table.attributedAt outer pointer nested ends).filter (fun t => keyword ∉ t.1)) :
    (table'.attributedBy outer pointer ends' i').filter (fun t => keyword ∉ t.1) =
      (table.attributedBy outer pointer ends i).filter (fun t => keyword ∉ t.1) := by
  obtain ⟨⟨other, _ | outcome⟩, ho⟩ := i
  · obtain ⟨i', ho'⟩ := i'
    obtain rfl := hi
    rfl
  · obtain ⟨i', ho'⟩ := i'
    obtain rfl := hi
    rw [attributedBy, attributedBy, List.filter_append, List.filter_append, List.filter_flatMap,
      List.filter_flatMap]
    refine congrArg (· ++ _) (List.flatMap_congr ?_)
    rintro ⟨complaint | ⟨tokens, nested⟩, hs⟩ -
    · rfl
    · exact h ⟨other, outcome, tokens, ho, hs⟩ _ _ _ _

/-- **Rules that differ for one keyword** find the same elsewhere, in the same order. -/
theorem filter_attributedAt_eq (h : ∀ other ≠ keyword, table'.rule? other = table.rule? other)
    (outer : List String) (pointer : List Char) (ends : table.Ends schema)
    (ends' : table'.Ends schema) :
    (table'.attributedAt outer pointer schema ends').filter (fun t => keyword ∉ t.1) =
      (table.attributedAt outer pointer schema ends).filter (fun t => keyword ∉ t.1) := by
  induction ends generalizing outer pointer with
  | intro schema hacc ih =>
    by_cases hobject : schema.isObject
    · rw [attributedAt_of_isObject _ _ _ hobject, attributedAt_of_isObject _ _ _ hobject,
        attach_invocations, attach_invocations, List.flatMap_map, List.flatMap_map,
        List.filter_flatMap, List.filter_flatMap]
      refine List.flatMap_congr fun m _ => ?_
      by_cases hk : m.1.1 = keyword
      · subst hk
        exact (filter_attributedBy_eq_nil (table'.invocation m)).trans
          (filter_attributedBy_eq_nil (table.invocation m)).symm
      · have hsame : (table'.invocation m).1 = (table.invocation m).1 :=
          congrArg (Prod.mk m.1.1) (congrArg (Option.map _) (h m.1.1 hk))
        exact filter_attributedBy_eq hsame fun hn outer pointer _ => ih _ hn outer pointer
    · rw [attributedAt, attributedAt, if_neg hobject, if_neg hobject]

end RuleTable

/-- A rule in place of another one in a vocabulary. -/
theorem Vocabulary.filter_attributed_insert (voc : Vocabulary) (keyword : String) (rule : Rule)
    (document : Json) :
    ((voc.insert keyword rule).table.attributed document (ends_table _ document)).filter
        (fun t => keyword ∉ t.1) =
      (voc.table.attributed document (ends_table _ document)).filter (fun t => keyword ∉ t.1) := by
  refine RuleTable.filter_attributedAt_eq (fun other hne => ?_) [] [] _ _
  rw [table_insert]
  exact if_neg hne

namespace RuleTable

open Checking

variable {table : RuleTable}

/-! ## Whole checks -/

/-- A rule that complains, has the value of another keyword checked, and breaks down after that. -/
def brittle : Rule.Behaviour := fun _ members =>
  ⟨.report (.custom "odd") :: (Json.lookup "b" members).toList.map (.nested []), some "boom"⟩

theorem ends_of_brittle
    (h : ∀ keyword behaviour, table.rule? keyword = some behaviour → behaviour = brittle)
    (schema : Json) : table.Ends schema := by
  refine ends_of_size_le (fun keyword behaviour hb _ _ _ _ _ hs => ?_) schema
  obtain rfl := h keyword behaviour hb
  obtain ⟨other, hother, he⟩ := List.mem_map.1 ((List.mem_cons.1 hs).resolve_left nofun)
  cases he
  exact Json.size_le_sizeMembers (Json.mem_of_lookup (Option.mem_toList.1 hother))

theorem eq_brittle_of_rule?_insert
    (h : ∀ keyword behaviour, table.rule? keyword = some behaviour → behaviour = brittle)
    (other keyword : String) (behaviour : Rule.Behaviour)
    (hb : (table.insert other brittle).rule? keyword = some behaviour) : behaviour = brittle := by
  by_cases hk : keyword = other
  · exact (Option.some.inj ((if_pos hk).symm.trans hb)).symm
  · exact h keyword behaviour ((if_neg hk).symm.trans hb)

/-- The rule for one keyword. -/
def brittleTable : RuleTable :=
  RuleTable.insert ⟨fun _ => none⟩ "a" brittle

theorem eq_brittle_of_rule? :
    ∀ keyword behaviour, brittleTable.rule? keyword = some behaviour → behaviour = brittle :=
  eq_brittle_of_rule?_insert (fun _ _ h => by cases h) "a"

theorem ends_brittleTable (schema : Json) : brittleTable.Ends schema :=
  ends_of_brittle eq_brittle_of_rule? schema

theorem ends_insert_brittle (schema : Json) : (brittleTable.insert "b" brittle).Ends schema :=
  ends_of_brittle (eq_brittle_of_rule?_insert eq_brittle_of_rule? "b") schema

/-- A schema whose first keyword has the second one checked. -/
def siblings : Json :=
  .obj [("a", .null), ("b", .obj [("a", .null), ("c", .null)])]

end RuleTable

end JsonSchema
