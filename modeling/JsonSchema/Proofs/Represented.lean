import JsonSchema.Proofs.Additional
import Mathlib

/-!
# No keyword is dropped

The rules of the standard vocabulary and the constraints of a schema read the values of keywords
each on their own. Values of the wrong form impose no constraint, but the rules complain about all
of them: whatever a schema demands at a visited place of an accepted document is part of a
constraint. Such constraints do not fail for reasons of their own, a pattern that is no regular
expression or numbers that do not compare.

* `Rule.IsQuiet`: a rule has no complaints.
* `Rule.IsQuiet.covers_of_typeUnion`: then every element of a union is read.
* `Constraint.Represents`: constraints leave out nothing that a member of a schema demands.
* `Constraint.represents_of_accepts`: no accepted keyword is dropped.
-/

namespace JsonSchema

/-! ## Values of a type -/

namespace NodeType

variable {v : Json}

theorem exists_num_of_mem_numeric (h : of v ∈ numeric) : ∃ n, v = .num n := by
  cases v with
  | num n => exact ⟨n, rfl⟩
  | _ => simp [of, numeric] at h

theorem exists_str_of_mem_string (h : of v ∈ [string]) : ∃ text, v = .str text := by
  cases v with
  | str text => exact ⟨text, rfl⟩
  | num n => cases hn : n.isInteger <;> simp [of, hn] at h
  | _ => simp [of] at h

theorem exists_arr_of_mem_array (h : of v ∈ [array]) : ∃ items, v = .arr items := by
  cases v with
  | arr items => exact ⟨items, rfl⟩
  | num n => cases hn : n.isInteger <;> simp [of, hn] at h
  | _ => simp [of] at h

/-- The name of a type and `any` admit values of some type. -/
theorem exists_admittedBy {name : String} (h : name = "any" ∨ (ofName? name).isSome) :
    ∃ t : NodeType, t.admittedBy name := by
  rcases h with rfl | h
  · exact ⟨null, rfl⟩
  · obtain ⟨t, ht⟩ := Option.isSome_iff_exists.1 h
    have hname : t.name = name := by simpa using List.find?_some ht
    exact ⟨t, by simp [admittedBy, hname]⟩

end NodeType

/-! ## Rules without complaints -/

/-- A rule has no complaints about the value of its keyword. -/
def Rule.IsQuiet (rule : Rule) (value : Json) (members : List (String × Json)) : Prop :=
  ∀ complaint, .report complaint ∉ (rule.run value members).steps

/-- The names and schemas of a union are those of the value that writes it. A name admits values of
some type. -/
def TypeUnion.Covers (union : TypeUnion) : Json → Prop
  | .str name => name ∈ union.names ∧ ∃ t : NodeType, t.admittedBy name
  | .arr items => ∀ i (hi : i < items.length),
    (∃ name ∈ union.names, items[i] = .str name ∧ ∃ t : NodeType, t.admittedBy name) ∨
      i ∈ union.schemas ∧ items[i].isObject
  | _ => False

namespace Rule

variable {value : Json} {members inner : List (String × Json)} {name : String}

theorem IsQuiet.mem_of_typed {expected : List NodeType}
    {complaints : Json → List (String × Json) → List Complaint}
    (h : (typed expected complaints).IsQuiet value members) :
    NodeType.of value ∈ expected ∧ complaints value members = [] := by
  by_cases ht : NodeType.of value ∈ expected
  · refine ⟨ht, List.eq_nil_iff_forall_not_mem.2 fun complaint hc => h complaint ?_⟩
    simpa [typed, ht] using hc
  · refine absurd ?_ (h (.wrongType expected (NodeType.of value)))
    simp [typed, ht, mismatch]

theorem asUnsigned?_of_sizeComplaints (h : sizeComplaints value = []) :
    ∃ n, value.asUnsigned? = some n := by
  refine Option.isSome_iff_exists.1 ?_
  cases value with
  | num n =>
    by_contra hn
    rw [sizeComplaints, if_neg (show ¬ n.toUnsigned?.isSome from hn)] at h
    split at h <;> cases h
  | _ => cases h

theorem IsQuiet.asUnsigned?_of_size (h : size.IsQuiet value members) :
    ∃ n, value.asUnsigned? = some n :=
  asUnsigned?_of_sizeComplaints <| List.eq_nil_iff_forall_not_mem.2 fun complaint hc =>
    h complaint (List.mem_map_of_mem hc)

theorem IsQuiet.asUnsigned?_of_leastSize {own upper : String}
    (h : (leastSize own upper).IsQuiet value members) : ∃ n, value.asUnsigned? = some n :=
  asUnsigned?_of_sizeComplaints <| List.eq_nil_iff_forall_not_mem.2 fun complaint hc =>
    h complaint (List.mem_map_of_mem (List.mem_append_left _ hc))

theorem isValid_of_patternComplaints (h : patternComplaints name = []) : Regex.isValid name := by
  by_contra hn
  rw [patternComplaints, if_neg hn] at h
  cases h

theorem IsQuiet.exists_obj_of_schemaMap (h : schemaMap.IsQuiet value members) :
    ∃ inner, value = .obj inner := by
  cases value with
  | obj inner => exact ⟨inner, rfl⟩
  | _ => exact absurd (List.mem_singleton_self _) (h _)

theorem IsQuiet.isValid_of_patternMap (h : patternMap.IsQuiet value members)
    (hm : name ∈ value.members.map Prod.fst) : Regex.isValid name := by
  cases value with
  | obj inner =>
    obtain ⟨m, hmem, rfl⟩ := List.mem_map.1 hm
    refine isValid_of_patternComplaints (List.eq_nil_iff_forall_not_mem.2 fun complaint hc => ?_)
    exact h complaint
      (List.mem_flatMap.2 ⟨m, hmem, List.mem_append_left _ (List.mem_map_of_mem hc)⟩)
  | _ => cases hm

theorem IsQuiet.of_schemaOrList (h : schemaOrList.IsQuiet value members) :
    value.isObject ∨ ∃ items, value = .arr items := by
  cases value with
  | obj => exact .inl rfl
  | arr items => exact .inr ⟨items, rfl⟩
  | _ => exact absurd (List.mem_singleton_self _) (h _)

theorem exists_admittedBy_of_typeNameComplaints (h : typeNameComplaints name = []) :
    ∃ t : NodeType, t.admittedBy name := by
  refine NodeType.exists_admittedBy ?_
  by_contra hn
  rw [typeNameComplaints, if_neg hn] at h
  cases h

/-- **Every element of a union without complaints is in the union.** -/
theorem IsQuiet.covers_of_typeUnion (h : typeUnion.IsQuiet value members) :
    (TypeUnion.ofJson value).Covers value := by
  cases value with
  | str name =>
    refine ⟨List.mem_singleton_self _, exists_admittedBy_of_typeNameComplaints ?_⟩
    exact List.eq_nil_iff_forall_not_mem.2 fun complaint hc => h complaint (List.mem_map_of_mem hc)
  | arr items =>
    intro i hi
    have hquiet (complaint : Complaint) : .report complaint ∉ unionElement i items[i] := fun hc =>
      h complaint (List.mem_append_right _ (List.mem_append_left _
        (List.mem_flatten.2 ⟨_, List.mem_mapIdx.2 ⟨i, hi, rfl⟩, hc⟩)))
    cases hv : items[i] with
    | str name =>
      rw [hv] at hquiet
      refine .inl ⟨name, List.mem_filterMap.2 ⟨_, List.getElem_mem hi, hv ▸ rfl⟩, rfl, ?_⟩
      refine exists_admittedBy_of_typeNameComplaints (List.eq_nil_iff_forall_not_mem.2 ?_)
      exact fun complaint hc => hquiet complaint (List.mem_map_of_mem hc)
    | obj inner =>
      refine .inr ⟨List.mem_filterMap.2 ⟨(items[i], i), ?_, ?_⟩, rfl⟩
      · exact List.mem_zipIdx_iff_getElem?.2 (List.getElem?_eq_getElem hi)
      · simp [hv, Json.isObject]
    | _ =>
      rw [hv] at hquiet
      exact absurd (List.mem_singleton_self _) (hquiet _)
  | _ => exact absurd (List.mem_singleton_self _) (h _)

theorem IsQuiet.exists_obj_of_dependencies (h : dependencies.IsQuiet value members) :
    ∃ inner, value = .obj inner ∧ ∀ {property needed}, (property, needed) ∈ inner →
      ∀ complaint, .report complaint ∉ dependency property needed := by
  cases value with
  | obj inner =>
    exact ⟨inner, rfl, fun hm complaint hc => h complaint (List.mem_flatMap.2 ⟨_, hm, hc⟩)⟩
  | _ => exact absurd (List.mem_singleton_self _) (h _)

end Rule

/-! ## What constraints must represent -/

namespace Constraint

/-- The bound of a keyword on one side is a constraint, exclusive if a flag says so. -/
def RepresentsBound (cs : List Constraint) (side : Side) (flag : Option Json) (value : Json) :
    Prop :=
  ∃ limit exclusive, value = .num limit ∧ bound side limit exclusive ∈ cs ∧
    (exclusive = true ↔ flag = some (.bool true))

/-- The size that a keyword gives is a constraint. -/
def RepresentsSize (cs : List Constraint) (make : Nat → Constraint) (value : Json) : Prop :=
  ∃ limit, value.asUnsigned? = some limit ∧ make limit ∈ cs

/-- What a property needs is a constraint: a member, a list of members or a schema. -/
def RepresentsDependency (cs : List Constraint) (property : String) : Json → Prop
  | .str name => dependency property [name] ∈ cs
  | .arr names => ∃ needs : List String, names = needs.map .str ∧ dependency property needs ∈ cs
  | .obj _ => schemaDependency property ∈ cs
  | _ => False

/-- Constraints leave out nothing that a member of a schema demands, by the keyword of the member
and its value: no element of a union, no schema that is extended, no name and no pattern. -/
def Represents (cs : List Constraint) (members : List (String × Json)) : String → Json → Prop
  | "type", value => ∃ union, type union ∈ cs ∧ union.Covers value
  | "disallow", value => ∃ union, disallow union ∈ cs ∧ union.Covers value
  | "enum", value => ∃ choices, value = .arr choices ∧ enum choices ∈ cs
  | "$ref", value => ref value ∈ cs
  | "extends", value => value.isObject ∧ extension none ∈ cs ∨
    ∃ items, value = .arr items ∧ ∀ i (hi : i < items.length),
      items[i].isObject ∧ extension (some i) ∈ cs
  | "minimum", value => RepresentsBound cs .lower (Json.lookup "exclusiveMinimum" members) value
  | "maximum", value => RepresentsBound cs .upper (Json.lookup "exclusiveMaximum" members) value
  | "divisibleBy", value => ∃ divisor, value = .num divisor ∧ divisibleBy divisor ∈ cs
  | "minLength", value => RepresentsSize cs (length .lower) value
  | "maxLength", value => RepresentsSize cs (length .upper) value
  | "minItems", value => RepresentsSize cs (itemCount .lower) value
  | "maxItems", value => RepresentsSize cs (itemCount .upper) value
  | "pattern", value => ∃ source, value = .str source ∧ Regex.isValid source ∧ pattern source ∈ cs
  | "format", value => ∃ name, value = .str name ∧ format name ∈ cs
  | "uniqueItems", value => value = .bool true → uniqueItems ∈ cs
  | "additionalItems", value => value = .bool false →
    ∀ tuple, Json.lookup "items" members = some (.arr tuple) → additionalItems tuple.length ∈ cs
  | "properties", value => ∃ properties, value = .obj properties ∧
    ∀ property ∈ properties, property.2.get? "required" = some (.bool true) →
      ∃ names, required names ∈ cs ∧ property.1 ∈ names
  | "additionalProperties", value => value = .bool false →
    ∃ names patterns, additionalProperties names patterns ∈ cs ∧
      (∀ name, name ∈ names ↔
        ((Json.lookup "properties" members).bind fun p => p.get? name).isSome) ∧
      (∀ p, p ∈ patterns ↔
        ((Json.lookup "patternProperties" members).bind fun v => v.get? p).isSome) ∧
      ∀ p ∈ patterns, Regex.isValid p
  | "dependencies", value => ∃ dependencies, value = .obj dependencies ∧
    ∀ dependency ∈ dependencies, RepresentsDependency cs dependency.1 dependency.2
  | _, _ => True

variable {schema value : Json} {keyword : String} {document : Json} {place : List Char}

theorem mem_ofSchema_of_mem {c : Constraint} (hm : (keyword, value) ∈ schema.members)
    (hc : c ∈ ofMember schema.members keyword value) : c ∈ ofSchema schema :=
  List.mem_flatMap.2 ⟨_, hm, hc⟩

theorem exists_of_mem_namesOf {name : String} {table : Option Json} (h : name ∈ namesOf table) :
    ∃ v, table = some v ∧ name ∈ v.members.map Prod.fst := by
  cases table with
  | none => cases h
  | some v => exact ⟨v, rfl, h⟩

theorem flag_eq_true_iff {flag : Option Json} :
    (flag.bind Json.asBool?).getD false = true ↔ flag = some (.bool true) := by
  rcases flag with _ | (_ | (_ | _) | _ | _ | _ | _) <;> simp [Json.asBool?]

theorem representsSize_of_sized {make : Nat → Constraint} (h : ∃ n, value.asUnsigned? = some n)
    (hc : ∀ c ∈ sized make value, c ∈ ofSchema schema) :
    RepresentsSize (ofSchema schema) make value := by
  obtain ⟨n, hn⟩ := h
  exact ⟨n, hn, hc _ (by simp [sized, hn])⟩

/-- The items of an array of texts. -/
theorem eq_map_filterMap_of_all {items : List Json} (h : items.all Json.isString) :
    items = (items.filterMap Json.asString?).map .str := by
  induction items with
  | nil => rfl
  | cons item rest ih =>
    rw [List.all_cons, Bool.and_eq_true] at h
    cases item with
    | str text =>
      have hhead : (Json.str text).asString? = some text := rfl
      rw [List.filterMap_cons_some hhead, List.map_cons, ← ih h.2]
    | _ => cases h.1

theorem representsDependency_of_mem {property : String} {needed : Json}
    (h : ∀ complaint, .report complaint ∉ Rule.dependency property needed) {cs : List Constraint}
    (hc : ∀ c ∈ ofDependency property needed, c ∈ cs) :
    RepresentsDependency cs property needed := by
  cases needed with
  | str name => exact hc _ (List.mem_singleton_self _)
  | obj inner => exact hc _ (List.mem_singleton_self _)
  | arr items =>
    have hall : items.all Json.isString := by
      by_contra hn
      refine absurd ?_ (h (.badDependencyList property))
      rw [Rule.dependency, if_neg hn]
      exact List.mem_singleton_self _
    refine ⟨items.filterMap Json.asString?, ?_, hc _ (List.mem_singleton_self _)⟩
    exact eq_map_filterMap_of_all hall
  | _ => exact absurd (List.mem_singleton_self _) (h _)

section Visited

open Vocabulary

variable (ha : standard.accepts document) (hp : (place, schema) ∈ standard.positions document)
include ha hp

theorem isQuiet_of_mem (hm : (keyword, value) ∈ schema.members) {rule : Rule}
    (hr : standard.rule? keyword = some rule) : rule.IsQuiet value schema.members := fun _ =>
  not_mem_steps_of_accepts ha hp hm hr

theorem represents_extends (hm : ("extends", value) ∈ schema.members) :
    Represents (ofSchema schema) schema.members "extends" value := by
  rcases (isQuiet_of_mem ha hp hm rfl).of_schemaOrList with hobject | ⟨items, rfl⟩
  · refine .inl ⟨hobject, mem_ofSchema_of_mem hm ?_⟩
    cases value with
    | obj inner => exact List.mem_singleton_self _
    | _ => cases hobject
  · refine .inr ⟨items, rfl, fun i hi => ⟨?_, mem_ofSchema_of_mem hm ?_⟩⟩
    · have hnests : standard.Nests place schema _ items[i] :=
        ⟨_, _, _, _, hm, rfl, Rule.nested_mem_nestedItems hi, rfl⟩
      exact isObject_of_mem_positions ha (hnests.mem_positions hp)
    · exact List.mem_map.2 ⟨i, List.mem_range.2 hi, rfl⟩

theorem represents_properties (hm : ("properties", value) ∈ schema.members) :
    Represents (ofSchema schema) schema.members "properties" value := by
  obtain ⟨properties, rfl⟩ := (isQuiet_of_mem ha hp hm rfl).exists_obj_of_schemaMap
  refine ⟨properties, rfl, fun property hproperty hrequired => ?_⟩
  have hname : property.1 ∈ (properties.filter fun p => isRequired p.2).map Prod.fst := by
    refine List.mem_map_of_mem (List.mem_filter.2 ⟨hproperty, ?_⟩)
    rw [isRequired, hrequired]
    rfl
  refine ⟨_, mem_ofSchema_of_mem hm ?_, hname⟩
  rw [ofMember, if_neg fun hempty => List.ne_nil_of_mem hname (List.isEmpty_iff.1 hempty)]
  exact List.mem_singleton_self _

theorem represents_additionalProperties (hm : ("additionalProperties", value) ∈ schema.members) :
    Represents (ofSchema schema) schema.members "additionalProperties" value := by
  rintro rfl
  refine ⟨_, _, mem_ofSchema_of_mem hm (List.mem_singleton_self _), fun name => ?_, fun p => ?_,
    fun p hpattern => ?_⟩
  · exact Routing.isSome_get?_iff_mem_namesOf.symm
  · exact Routing.isSome_get?_iff_mem_namesOf.symm
  · obtain ⟨table, htable, hname⟩ := exists_of_mem_namesOf hpattern
    exact (isQuiet_of_mem ha hp (Json.mem_of_lookup htable) rfl).isValid_of_patternMap hname

theorem represents_dependencies (hm : ("dependencies", value) ∈ schema.members) :
    Represents (ofSchema schema) schema.members "dependencies" value := by
  obtain ⟨dependencies, rfl, hdependency⟩ :=
    (isQuiet_of_mem ha hp hm rfl).exists_obj_of_dependencies
  refine ⟨dependencies, rfl, fun d hd => ?_⟩
  exact representsDependency_of_mem (hdependency hd) fun c hc =>
    mem_ofSchema_of_mem hm (List.mem_flatMap.2 ⟨d, hd, hc⟩)

/-- **No keyword of a visited schema is dropped.** -/
theorem represents_of_mem (hm : (keyword, value) ∈ schema.members) :
    Represents (ofSchema schema) schema.members keyword value := by
  have hquiet {rule : Rule} (hr : standard.rule? keyword = some rule) :
      rule.IsQuiet value schema.members := isQuiet_of_mem ha hp hm hr
  have hmem {c : Constraint} : c ∈ ofMember schema.members keyword value → c ∈ ofSchema schema :=
    mem_ofSchema_of_mem hm
  unfold Represents
  -- One case for each keyword, in the order of `Represents`.
  split
  case h_1 | h_2 =>
    exact ⟨_, hmem (List.mem_singleton_self _), (hquiet rfl).covers_of_typeUnion⟩
  case h_3 =>
    obtain ⟨choices, rfl⟩ := NodeType.exists_arr_of_mem_array (hquiet rfl).mem_of_typed.1
    exact ⟨choices, rfl, hmem (List.mem_singleton_self _)⟩
  case h_4 => exact hmem (List.mem_singleton_self _)
  case h_5 => exact represents_extends ha hp hm
  case h_6 | h_7 =>
    obtain ⟨limit, rfl⟩ := NodeType.exists_num_of_mem_numeric (hquiet rfl).mem_of_typed.1
    exact ⟨limit, _, rfl, hmem (List.mem_singleton_self _), flag_eq_true_iff⟩
  case h_8 =>
    obtain ⟨divisor, rfl⟩ := NodeType.exists_num_of_mem_numeric (hquiet rfl).mem_of_typed.1
    exact ⟨divisor, rfl, hmem (List.mem_singleton_self _)⟩
  case h_9 | h_11 =>
    exact representsSize_of_sized (hquiet rfl).asUnsigned?_of_leastSize fun _ => hmem
  case h_10 | h_12 =>
    exact representsSize_of_sized (hquiet rfl).asUnsigned?_of_size fun _ => hmem
  case h_13 =>
    obtain ⟨htype, hvalid⟩ := (hquiet rfl).mem_of_typed
    obtain ⟨source, rfl⟩ := NodeType.exists_str_of_mem_string htype
    exact ⟨source, rfl, Rule.isValid_of_patternComplaints hvalid,
      hmem (List.mem_singleton_self _)⟩
  case h_14 =>
    obtain ⟨name, rfl⟩ := NodeType.exists_str_of_mem_string (hquiet rfl).mem_of_typed.1
    exact ⟨name, rfl, hmem (List.mem_singleton_self _)⟩
  case h_15 =>
    rintro rfl
    exact hmem (List.mem_singleton_self _)
  case h_16 =>
    rintro rfl tuple htuple
    refine hmem ?_
    simp only [ofMember]
    rw [htuple, List.mem_singleton]
  case h_17 => exact represents_properties ha hp hm
  case h_18 => exact represents_additionalProperties ha hp hm
  case h_19 => exact represents_dependencies ha hp hm
  case h_20 => trivial

end Visited

theorem eq_of_mem_pattern {members : List (String × Json)} {source : String}
    (h : pattern source ∈ ofMember members "pattern" value) : value = .str source := by
  cases value with
  | str text =>
    cases List.mem_singleton.1 h
    rfl
  | _ => cases h

open Vocabulary in
/-- The patterns of a visited schema are regular expressions. -/
theorem isValid_of_mem_pattern (ha : standard.accepts document)
    (hp : (place, schema) ∈ standard.positions document) {source : String}
    (hc : pattern source ∈ ofSchema schema) : Regex.isValid source := by
  have hk : (pattern source).keyword = "pattern" := rfl
  obtain ⟨value, hm, hc⟩ := exists_mem_ofMember hc hk (by decide)
  obtain ⟨_, hvalue, hvalid, -⟩ := represents_of_mem ha hp hm
  rw [eq_of_mem_pattern hc] at hvalue
  cases hvalue
  exact hvalid

open Vocabulary in
/-- **No accepted keyword is dropped.** The constraints of a schema that is visited in an accepted
document represent all that its members demand, and what they report of a value never blames the
schema. -/
theorem represents_of_accepts (ha : standard.accepts document)
    (hp : (place, schema) ∈ standard.positions document) :
    (∀ member ∈ schema.members,
      Represents (ofSchema schema) schema.members member.1 member.2) ∧
    ∀ v, ∀ c ∈ forType schema (NodeType.of v), ∀ violations, c.judge v = .failed violations →
      ∀ violation ∈ violations, ¬ violation.BlamesSchema := by
  refine ⟨fun member hm => represents_of_mem ha hp hm,
    fun v c hc violations hjudge violation hv => ?_⟩
  rw [Violation.blamesSchema_iff]
  rintro ⟨source, rfl⟩
  obtain ⟨rfl, hinvalid⟩ := eq_pattern_of_badPattern hjudge hv
  rw [isValid_of_mem_pattern ha hp (List.mem_filter.1 hc).1] at hinvalid
  cases hinvalid

/-- A schema with a union of a name and a schema, names, patterns and a list of dependencies. -/
def demanding : Json :=
  .obj [("type", .arr [.str "object", .obj [("minimum", .num (.int 1 (by decide)))]]),
    ("properties", .obj [("a", .obj [("required", .bool true)])]),
    ("patternProperties", .obj [("^x", .obj [])]), ("additionalProperties", .bool false),
    ("dependencies", .obj [("a", .arr [.str "x1", .str "x2"])])]

/-- Nothing of the schema is dropped. -/
theorem represents_demanding : Vocabulary.standard.accepts demanding ∧
    (∀ member ∈ demanding.members,
      Represents (ofSchema demanding) demanding.members member.1 member.2) ∧
    ∀ v, ∀ c ∈ forType demanding (NodeType.of v), ∀ violations, c.judge v = .failed violations →
      ∀ violation ∈ violations, ¬ violation.BlamesSchema := by
  have ha : Vocabulary.standard.accepts demanding := by decide +kernel
  exact ⟨ha, represents_of_accepts ha (Vocabulary.root_mem_positions _ _)⟩

end Constraint

end JsonSchema
