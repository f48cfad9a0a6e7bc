import JsonSchema.Constraint
import Mathlib

/-!
# What constraints say

Facts about `Constraint.ofSchema` and `Constraint.judge` that hold for every schema and value:

* `Constraint.exists_member_of_mem`: every constraint is written by a member of its schema.
* `Constraint.keyword_of_mem`: the keyword of a constraint is the name of this member.
* `Constraint.mem_targets_of_judge`: a verdict leaves the matter to the places of its constraint.
* `Constraint.exists_disallow_of_isNegative`: only a disallowed schema makes a value pass by being
  rejected.
* `Constraint.judge_eq_overflow_iff`: only the least number with -1 as divisor has no answer.
-/

namespace JsonSchema

namespace Verdict

/-- The places that a verdict leaves the matter to. -/
def targets : Verdict → List Target
  | deferred target => [target]
  | anyOf targets _ | noneOf targets _ => targets
  | _ => []

/-- Whether a value passes only if schemas reject it. -/
def IsNegative : Verdict → Prop
  | noneOf _ _ => True
  | _ => False

/-- A verdict that rests on the value alone: the value passes, or it does not. -/
def IsFinal : Verdict → Prop
  | passed | failed _ => True
  | _ => False

@[simp] theorem isFinal_require (condition : Bool) (otherwise : Violation) :
    (require condition otherwise).IsFinal := by
  cases condition <;> trivial

@[simp] theorem isFinal_ofViolations (violations : List Violation) :
    (ofViolations violations).IsFinal := by
  unfold ofViolations
  split <;> trivial

variable {verdict : Verdict}

theorem IsFinal.targets_eq_nil (h : verdict.IsFinal) : verdict.targets = [] := by
  cases verdict <;> first | rfl | exact h.elim

theorem IsFinal.not_isNegative (h : verdict.IsFinal) : ¬ verdict.IsNegative := by
  cases verdict <;> first | exact id | exact fun _ => h

end Verdict

/-- The schemas of a union are the objects of an array. -/
theorem TypeUnion.exists_of_mem_schemas {value : Json} {i : Nat}
    (h : i ∈ (TypeUnion.ofJson value).schemas) :
    ∃ items item, value = .arr items ∧ items[i]? = some item ∧ item.isObject := by
  cases value with
  | arr items =>
    obtain ⟨⟨item, j⟩, hm, hj⟩ := List.mem_filterMap.1 h
    obtain ⟨ho, rfl⟩ : item.isObject = true ∧ j = i := by simpa using hj
    exact ⟨items, item, rfl, List.mem_zipIdx_iff_getElem?.1 hm, ho⟩
  | _ => cases h

namespace Number

/-- The least number of the signed range. -/
def least : Number :=
  .int (-9223372036854775808) (by decide)

/-- The divisor by which the remainder of the least number is out of range. -/
def minusOne : Number :=
  .int (-1) (by decide)

theorem toSigned?_eq_some {n : Number} {x : Int} (h : n.toSigned? = some x) :
    ∃ hx, n = .int x hx := by
  cases n with
  | int value hrange =>
    unfold toSigned? at h
    obtain ⟨-, hx⟩ := Option.ite_none_right_eq_some.1 h
    cases hx
    exact ⟨hrange, rfl⟩
  | real d => cases h

theorem isMultipleOf?_eq_none_iff {n divisor : Number} :
    n.isMultipleOf? divisor = none ↔ n = least ∧ divisor = minusOne := by
  constructor
  · intro h
    unfold isMultipleOf? at h
    split at h
    · rename_i x d hx hd
      split at h
      · cases h
      split at h
      · rename_i hxd
        obtain ⟨-, rfl⟩ := toSigned?_eq_some hx
        obtain ⟨-, rfl⟩ := toSigned?_eq_some hd
        obtain ⟨rfl, rfl⟩ := hxd
        exact ⟨rfl, rfl⟩
      · cases h
    · cases h
  · rintro ⟨rfl, rfl⟩
    rfl

end Number

namespace Constraint

/-! ## Constraints and the members that write them -/

/-- What the member of a schema that writes a constraint looks like, for constraints that other
schemas or divisors occur in. -/
def WrittenBy : Constraint → String → Json → Prop
  | type union, keyword, value => keyword = "type" ∧ union = .ofJson value
  | disallow union, keyword, value => keyword = "disallow" ∧ union = .ofJson value
  | ref reference, keyword, value => keyword = "$ref" ∧ reference = value
  | extension none, keyword, value => keyword = "extends" ∧ value.isObject
  | extension (some i), keyword, value =>
    keyword = "extends" ∧ ∃ items, value = .arr items ∧ i < items.length
  | divisibleBy divisor, keyword, value => keyword = "divisibleBy" ∧ value = .num divisor
  | schemaDependency property, keyword, value =>
    keyword = "dependencies" ∧ ∃ members, value = .obj members ∧
      ∃ schema : Json, schema.isObject ∧ (property, schema) ∈ members
  | _, _, _ => True

theorem writtenBy_of_mem_ofDependency {property : String} {value : Json} {c : Constraint}
    {members : List (String × Json)} (hm : (property, value) ∈ members)
    (h : c ∈ ofDependency property value) : c.WrittenBy "dependencies" (.obj members) := by
  cases value with
  | obj needed =>
    rw [ofDependency, List.mem_singleton] at h
    subst h
    exact ⟨rfl, members, rfl, .obj needed, rfl, hm⟩
  | str name => rw [ofDependency, List.mem_singleton] at h; subst h; trivial
  | arr names => rw [ofDependency, List.mem_singleton] at h; subst h; trivial
  | _ => cases h

theorem writtenBy_of_mem_sized {make : Nat → Constraint} {keyword : String} {value : Json}
    {c : Constraint} (h : c ∈ sized make value)
    (hmake : ∀ n, (make n).WrittenBy keyword value) : c.WrittenBy keyword value := by
  obtain ⟨n, -, rfl⟩ := List.mem_map.1 h
  exact hmake n

theorem writtenBy_of_mem {members : List (String × Json)} {keyword : String} {value : Json}
    {c : Constraint} (h : c ∈ ofMember members keyword value) : c.WrittenBy keyword value := by
  revert h
  fun_cases ofMember members keyword value <;> intro h
  case case6 items =>
    obtain ⟨i, hi, rfl⟩ := List.mem_map.1 h
    exact ⟨rfl, items, rfl, List.mem_range.1 hi⟩
  case case22 dependencies =>
    obtain ⟨m, hm, hc⟩ := List.mem_flatMap.1 h
    exact writtenBy_of_mem_ofDependency hm hc
  case case10 | case11 | case12 | case13 => exact writtenBy_of_mem_sized h fun _ => trivial
  all_goals first
    | cases h; done
    | rw [List.mem_singleton] at h; subst h; trivial

/-- Every constraint of a schema is written by one of its members. -/
theorem exists_member_of_mem {schema : Json} {c : Constraint} (h : c ∈ ofSchema schema) :
    ∃ keyword value, (keyword, value) ∈ schema.members ∧ c.WrittenBy keyword value := by
  obtain ⟨m, hm, hc⟩ := List.mem_flatMap.1 h
  exact ⟨m.1, m.2, hm, writtenBy_of_mem hc⟩

theorem keyword_of_mem_ofDependency {property : String} {value : Json} {c : Constraint}
    (h : c ∈ ofDependency property value) : c.keyword = "dependencies" := by
  cases value with
  | str | arr | obj => rw [ofDependency, List.mem_singleton] at h; subst h; rfl
  | _ => cases h

theorem keyword_of_mem_sized {make : Nat → Constraint} {keyword : String} {value : Json}
    {c : Constraint} (h : c ∈ sized make value) (hmake : ∀ n, (make n).keyword = keyword) :
    c.keyword = keyword := by
  obtain ⟨n, -, rfl⟩ := List.mem_map.1 h
  exact hmake n

/-- A constraint has the keyword that writes it, except that the required members are found among
the properties. -/
theorem keyword_of_mem {members : List (String × Json)} {keyword : String} {value : Json}
    {c : Constraint} (h : c ∈ ofMember members keyword value) :
    c.keyword = keyword ∨ keyword = "properties" ∧ c.keyword = "required" := by
  revert h
  fun_cases ofMember members keyword value <;> intro h
  case case6 items =>
    obtain ⟨i, hi, rfl⟩ := List.mem_map.1 h
    exact .inl rfl
  case case10 | case11 | case12 | case13 => exact .inl (keyword_of_mem_sized h fun _ => rfl)
  case case20 => rw [List.mem_singleton] at h; subst h; exact .inr ⟨rfl, rfl⟩
  case case22 =>
    obtain ⟨m, -, hm⟩ := List.mem_flatMap.1 h
    exact .inl (keyword_of_mem_ofDependency hm)
  all_goals first
    | cases h; done
    | rw [List.mem_singleton] at h; subst h; exact .inl rfl

/-- The constraints for a keyword other than `required` are written by its members. -/
theorem exists_mem_ofMember {schema : Json} {keyword : String} {c : Constraint}
    (hc : c ∈ ofSchema schema) (hk : c.keyword = keyword) (hr : keyword ≠ "required") :
    ∃ value, (keyword, value) ∈ schema.members ∧ c ∈ ofMember schema.members keyword value := by
  obtain ⟨⟨name, value⟩, hm, hc⟩ := List.mem_flatMap.1 hc
  obtain rfl : name = keyword := by
    rcases keyword_of_mem hc with h | ⟨-, h⟩
    · exact h.symm.trans hk
    · exact absurd (hk.symm.trans h) hr
  exact ⟨value, hm, hc⟩

/-! ## Verdicts -/

/-- The places of the schemas that a constraint may leave the matter to. -/
def targets : Constraint → List Target
  | type union => union.targets "type"
  | disallow union => union.targets "disallow"
  | ref reference => [.referenced reference]
  | extension none => [.below ["extends".toList]]
  | extension (some i) => [.below ["extends".toList, Nat.toDigits 10 i]]
  | schemaDependency property => [.below ["dependencies".toList, property.toList]]
  | _ => []

theorem isFinal_judgeBound (side : Side) (limit : Number) (exclusive : Bool) (n : Number) :
    (judgeBound side limit exclusive n).IsFinal := by
  simp only [judgeBound]
  split
  · trivial
  · exact Verdict.isFinal_require _ _

theorem isFinal_judgePattern (source text : String) : (judgePattern source text).IsFinal := by
  unfold judgePattern
  split
  · exact Verdict.isFinal_require _ _
  · trivial

theorem isFinal_or_eq_none_of_judgeDivisor (divisor n : Number) :
    (judgeDivisor divisor n).IsFinal ∨
      judgeDivisor divisor n = .overflow ∧ n.isMultipleOf? divisor = none := by
  unfold judgeDivisor
  cases h : n.isMultipleOf? divisor with
  | some divisible => exact .inl (Verdict.isFinal_require _ _)
  | none => exact .inr ⟨rfl, rfl⟩

/-- The verdicts that a constraint may give on a value. -/
inductive MayGive (c : Constraint) (v : Json) : Verdict → Prop
  | final {verdict : Verdict} (h : verdict.IsFinal) : MayGive c v verdict
  | deferred {target : Target} (h : c.targets = [target]) : MayGive c v (.deferred target)
  | anyOf {otherwise : Violation} : MayGive c v (.anyOf c.targets otherwise)
  | noneOf {union : TypeUnion} {otherwise : Violation} (hc : c = .disallow union)
      (hs : union.schemas ≠ []) : MayGive c v (.noneOf c.targets otherwise)
  | overflow {divisor n : Number} (hc : c = .divisibleBy divisor) (hv : v = .num n)
      (h : n.isMultipleOf? divisor = none) : MayGive c v .overflow

theorem mayGive_judge (c : Constraint) (v : Json) : c.MayGive v (c.judge v) := by
  fun_cases judge c v
  case case3 => exact .anyOf
  case case6 union hs hu =>
    refine .noneOf rfl fun h => ?_
    rw [h] at hs
    exact hs rfl
  case case8 | case9 | case10 | case25 => exact .deferred rfl
  case case11 => exact .final (isFinal_judgeBound _ _ _ _)
  case case12 divisor n =>
    rcases isFinal_or_eq_none_of_judgeDivisor divisor n with h | ⟨h, hn⟩
    · exact .final h
    · rw [h]
      exact .overflow rfl rfl hn
  case case14 => exact .final (isFinal_judgePattern _ _)
  all_goals exact .final (by first | trivial | simp)

/-- A verdict leaves the matter to places of the constraint only. -/
theorem mem_targets_of_judge {c : Constraint} {v : Json} {t : Target}
    (h : t ∈ (c.judge v).targets) : t ∈ c.targets := by
  have hc := c.mayGive_judge v
  generalize c.judge v = verdict at h hc
  cases hc with
  | final hf => rw [hf.targets_eq_nil] at h; cases h
  | deferred ht => rwa [ht]
  | anyOf => exact h
  | noneOf => exact h
  | overflow => cases h

/-- Only a disallowed schema makes a value pass by being rejected. -/
theorem exists_disallow_of_isNegative {c : Constraint} {v : Json} (h : (c.judge v).IsNegative) :
    ∃ union : TypeUnion, c = .disallow union ∧ union.schemas ≠ [] := by
  have hc := c.mayGive_judge v
  generalize c.judge v = verdict at h hc
  cases hc with
  | final hf => exact absurd h hf.not_isNegative
  | noneOf hc hs => exact ⟨_, hc, hs⟩
  | _ => exact h.elim

/-- **Only the least number with -1 as divisor is left without an answer.** -/
theorem judge_eq_overflow_iff {c : Constraint} {v : Json} :
    c.judge v = .overflow ↔ c = .divisibleBy .minusOne ∧ v = .num .least := by
  constructor
  · intro h
    have hc := c.mayGive_judge v
    rw [h] at hc
    cases hc with
    | final hf => exact hf.elim
    | overflow hc hv hn =>
      obtain ⟨rfl, rfl⟩ := Number.isMultipleOf?_eq_none_iff.1 hn
      exact ⟨hc, hv⟩
  · rintro ⟨rfl, rfl⟩
    rfl

/-- Where a schema leaves a value without an answer, it is the least number, and -1 is the divisor
that the schema writes. -/
theorem mem_minusOne_of_judge {schema v : Json} {t : NodeType} {c : Constraint}
    (hc : c ∈ forType schema t) (ho : c.judge v = .overflow) :
    v = .num .least ∧ ("divisibleBy", .num .minusOne) ∈ schema.members := by
  obtain ⟨rfl, hv⟩ := judge_eq_overflow_iff.1 ho
  obtain ⟨keyword, value, hm, rfl, rfl⟩ := exists_member_of_mem (List.mem_filter.1 hc).1
  exact ⟨hv, hm⟩

end Constraint

end JsonSchema
