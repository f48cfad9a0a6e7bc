import JsonSchema.Vocabulary.Finding

/-!
# Vocabularies

A vocabulary gives each keyword a rule. A rule looks at the value of its keyword, and at the schema
around it, and answers with steps: complaints and nested schemas to check. It may also break down,
after some steps. The nested schemas of a rule are no larger than the keyword's value, so a check of
a document ends.

* `Vocabulary.findings` checks a document, nested schemas included, keywords in document order.
* `Vocabulary.positions` lists the places that the check visits as schemas.
* `Vocabulary.accepts` says that no finding is fatal.
-/

namespace JsonSchema

/-- One thing that a rule does. -/
inductive Rule.Step
  /-- Complains about the value of the keyword. -/
  | report (complaint : Complaint)
  /-- Has a schema checked whose place is `tokens` below the keyword. -/
  | nested (tokens : List (List Char)) (value : Json)

/-- What a rule does, in order, and why it broke down after that, if it did. -/
structure Rule.Outcome where
  steps : List Rule.Step
  failure : Option String := none

/-- The nested schemas of some steps have at most `bound` values. -/
def Rule.Within (bound : Nat) (steps : List Rule.Step) : Prop :=
  ∀ tokens value, Rule.Step.nested tokens value ∈ steps → value.size ≤ bound

/-- A rule for the value of a keyword among the members of a schema. -/
structure Rule where
  run : Json → List (String × Json) → Rule.Outcome
  within : ∀ value members, Rule.Within value.size (run value members).steps

/-- Rules by keyword. -/
structure Vocabulary where
  rules : List (String × Rule)

namespace Rule.Within

theorem nil (bound : Nat) : Within bound [] := by
  simp [Within]

theorem report (bound : Nat) (complaint : Complaint) : Within bound [.report complaint] := by
  simp [Within]

theorem nested {bound : Nat} {tokens : List (List Char)} {value : Json}
    (h : value.size ≤ bound) : Within bound [.nested tokens value] := by
  simp only [Within, List.mem_singleton, Step.nested.injEq]
  rintro _ _ ⟨-, rfl⟩
  exact h

theorem append {bound : Nat} {xs ys : List Step} (hx : Within bound xs) (hy : Within bound ys) :
    Within bound (xs ++ ys) := fun tokens value h =>
  (List.mem_append.1 h).elim (hx tokens value) (hy tokens value)

theorem flatMap {α : Type} {bound : Nat} {xs : List α} {f : α → List Step}
    (h : ∀ x ∈ xs, Within bound (f x)) : Within bound (xs.flatMap f) := fun tokens value hm =>
  let ⟨x, hx, hf⟩ := List.mem_flatMap.1 hm
  h x hx tokens value hf

theorem flatten {bound : Nat} {xs : List (List Step)} (h : ∀ x ∈ xs, Within bound x) :
    Within bound xs.flatten := fun tokens value hm =>
  let ⟨x, hx, hf⟩ := List.mem_flatten.1 hm
  h x hx tokens value hf

theorem ite {bound : Nat} {c : Prop} [Decidable c] {xs ys : List Step} (hx : Within bound xs)
    (hy : Within bound ys) : Within bound (if c then xs else ys) := by
  split <;> assumption

end Rule.Within

namespace Vocabulary

/-- The vocabulary without keywords. -/
def empty : Vocabulary :=
  ⟨[]⟩

/-- The rule of a keyword. -/
def rule? (voc : Vocabulary) (keyword : String) : Option Rule :=
  voc.rules.lookup keyword

/-- Whether a keyword has a rule. -/
def knows (voc : Vocabulary) (keyword : String) : Bool :=
  (voc.rule? keyword).isSome

/-- Gives a keyword a rule, in place of the one it has. -/
def insert (voc : Vocabulary) (keyword : String) (rule : Rule) : Vocabulary :=
  ⟨(keyword, rule) :: voc.rules.filter fun r => r.1 != keyword⟩

/-- The keywords in the order of their texts. -/
def keywords (voc : Vocabulary) : List String :=
  (voc.rules.map Prod.fst).mergeSort fun a b => decide (a ≤ b)

/-- The findings of a check of `schema`, which stands at the place `pointer`. -/
def findingsAt (voc : Vocabulary) (pointer : List Char) (schema : Json) : List Finding :=
  match schema with
  | .obj members =>
    members.attach.flatMap fun ⟨(keyword, value), hm⟩ =>
      match voc.rule? keyword with
      | none => [⟨pointer, .unknownKeyword keyword⟩]
      | some rule =>
        let outcome := rule.run value members
        (outcome.steps.attach.flatMap fun
          | ⟨.report complaint, _⟩ => [⟨pointer, .invalidKeyword keyword complaint⟩]
          | ⟨.nested tokens nested, hs⟩ =>
            have : nested.size < (Json.obj members).size := by
              have h₁ := rule.within value members tokens nested hs
              have h₂ : value.size ≤ _ := Json.size_le_sizeMembers hm
              simp only [Json.size]
              omega
            findingsAt voc (tokens.foldl Pointer.child (Pointer.child pointer keyword.toList))
              nested) ++
          outcome.failure.toList.map fun reason => ⟨pointer, .ruleFailed keyword reason⟩
  | other => [⟨pointer, .notASchema (NodeType.of other)⟩]
  termination_by schema.size

/-- The findings of a check of a document. -/
def findings (voc : Vocabulary) (document : Json) : List Finding :=
  voc.findingsAt [] document

/-- Whether a check of a document has no fatal finding. -/
def accepts (voc : Vocabulary) (document : Json) : Bool :=
  !(voc.findings document).any Finding.isFatal

/-- The places that a check of `schema` at the place `pointer` visits, with the values there. -/
def positionsFrom (voc : Vocabulary) (pointer : List Char) (schema : Json) :
    List (List Char × Json) :=
  (pointer, schema) ::
    match schema with
    | .obj members =>
      members.attach.flatMap fun ⟨(keyword, value), hm⟩ =>
        match voc.rule? keyword with
        | none => []
        | some rule =>
          (rule.run value members).steps.attach.flatMap fun
            | ⟨.report _, _⟩ => []
            | ⟨.nested tokens nested, hs⟩ =>
              have : nested.size < (Json.obj members).size := by
                have h₁ := rule.within value members tokens nested hs
                have h₂ : value.size ≤ _ := Json.size_le_sizeMembers hm
                simp only [Json.size]
                omega
              positionsFrom voc
                (tokens.foldl Pointer.child (Pointer.child pointer keyword.toList)) nested
    | _ => []
  termination_by schema.size

/-- The places that a check of a document visits as schemas, with the values there. -/
def positions (voc : Vocabulary) (document : Json) : List (List Char × Json) :=
  voc.positionsFrom [] document

end Vocabulary

end JsonSchema
