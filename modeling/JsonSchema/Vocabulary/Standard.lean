import JsonSchema.Json.Equality
import JsonSchema.Regex.Pattern
import JsonSchema.Vocabulary.Basic

/-!
# The standard vocabulary

The thirty keywords that a schema may use, each with the rule for its value. `Vocabulary.standard`
is their table. Rules for values of one type are built by `Rule.typed`, which complains about every
other type.
-/

namespace JsonSchema

namespace Rule

/-- The complaint about a value that is of none of the expected types. -/
def mismatch (expected : List NodeType) (value : Json) : List Step :=
  [.report (.wrongType expected (NodeType.of value))]

/-- A rule that complains only: of a value of another type, or what `complaints` says. -/
def typed (expected : List NodeType)
    (complaints : Json → List (String × Json) → List Complaint) : Rule where
  run value members :=
    if NodeType.of value ∈ expected then ⟨(complaints value members).map .report, none⟩
    else ⟨mismatch expected value, none⟩
  within value members := by
    split <;> simp [Within, mismatch]

/-- A rule for a value of one of several types. -/
def ofType (expected : List NodeType) : Rule :=
  typed expected fun _ _ => []

/-- A rule that admits every value. -/
def any : Rule :=
  ofType NodeType.all

/-- A rule for a URI reference. -/
def uri : Rule :=
  typed [.string] fun value _ =>
    match Reference.ofJson value with
    | .ok _ => []
    | .error cause => [.badReference cause]

/-- The complaint about a pattern that is no regular expression. -/
def patternComplaints (pattern : String) : List Complaint :=
  if Regex.isValid pattern then [] else [.badPattern pattern]

/-- A rule for a regular expression. -/
def pattern : Rule :=
  typed [.string] fun value _ => (value.asString?.map patternComplaints).getD []

/-- The items of an array. -/
def itemsOf : Json → List Json
  | .arr items => items
  | _ => []

/-- A rule for an array of different values, at least one. -/
def choices : Rule :=
  typed [.array] fun value _ =>
    (if (itemsOf value).isEmpty then [.emptyEnum] else []) ++
      if (Json.firstRepeat? (itemsOf value)).isSome then [.repeatedEnumElement] else []

/-- A rule for a number above zero. -/
def positive : Rule :=
  typed NodeType.numeric fun value _ =>
    match value with
    | .num n => if n.toDouble.order (.zero false) == .gt then [] else [.notPositive]
    | _ => []

/-- A rule for a flag that sharpens the bound of another keyword. -/
def flagOf (keyword bound : String) : Rule :=
  typed [.boolean] fun _ members =>
    if (Json.lookup bound members).isSome then [] else [.missingBound keyword bound]

/-- The complaints about a value that should be a size. -/
def sizeComplaints : Json → List Complaint
  | .num n =>
    if n.toUnsigned?.isSome then []
    else if n.isInteger then [.negativeSize]
    else [.notASize .number]
  | value => [.notASize (NodeType.of value)]

/-- A rule for a size. -/
def size : Rule where
  run value _ := ⟨(sizeComplaints value).map .report, none⟩
  within := by simp [Within]

/-- A rule for a least size, which may not exceed the greatest size that another keyword gives. -/
def leastSize (keyword upper : String) : Rule where
  run value members :=
    let crossed :=
      match value.asUnsigned?, (Json.lookup upper members).bind Json.asUnsigned? with
      | some least, some greatest =>
        if greatest < least then [.crossedBounds keyword least upper greatest] else []
      | _, _ => []
    ⟨(sizeComplaints value ++ crossed).map .report, none⟩
  within := by simp [Within]

/-- The schemas of an array, by their index. -/
def nestedItems (items : List Json) : List Step :=
  items.mapIdx fun i item => .nested [Nat.toDigits 10 i] item

/-- The schemas of an object, by their name. -/
def nestedMembers (members : List (String × Json)) : List Step :=
  members.map fun (name, value) => .nested [name.toList] value

theorem within_nestedItems (items : List Json) :
    Within (Json.arr items).size (nestedItems items) := by
  intro tokens value h
  simp only [nestedItems, List.mem_mapIdx, Step.nested.injEq] at h
  obtain ⟨i, hi, -, rfl⟩ := h
  have := Json.size_le_sizeItems (List.getElem_mem hi)
  simp only [Json.size]
  omega

theorem within_nestedMembers (members : List (String × Json)) :
    Within (Json.obj members).size (nestedMembers members) := by
  intro tokens value h
  simp only [nestedMembers, List.mem_map, Step.nested.injEq] at h
  obtain ⟨m, hm, -, rfl⟩ := h
  have := Json.size_le_sizeMembers hm
  simp only [Json.size]
  omega

/-- A rule for an object of schemas. -/
def schemaMap : Rule where
  run value _ :=
    match value with
    | .obj members => ⟨nestedMembers members, none⟩
    | other => ⟨mismatch [.object] other, none⟩
  within value _ := by
    split
    · exact within_nestedMembers _
    · exact .report _ _

/-- A rule for an object of schemas whose names are regular expressions. -/
def patternMap : Rule where
  run value _ :=
    match value with
    | .obj members =>
      ⟨members.flatMap fun (name, schema) =>
        (patternComplaints name).map .report ++ [.nested [name.toList] schema], none⟩
    | other => ⟨mismatch [.object] other, none⟩
  within value _ := by
    split
    · refine .flatMap fun m hm => .append (by simp [Within]) (.nested ?_)
      have := Json.size_le_sizeMembers hm
      simp only [Json.size]
      omega
    · exact .report _ _

/-- A rule for a boolean or a schema. -/
def boolOrSchema : Rule where
  run value _ :=
    match value with
    | .bool _ => ⟨[], none⟩
    | .obj members => ⟨[.nested [] (.obj members)], none⟩
    | other => ⟨mismatch [.boolean, .object] other, none⟩
  within value _ := by
    split
    · exact .nil _
    · exact .nested (Nat.le_refl _)
    · exact .report _ _

/-- A rule for a schema or an array of schemas. -/
def schemaOrList : Rule where
  run value _ :=
    match value with
    | .obj members => ⟨[.nested [] (.obj members)], none⟩
    | .arr items => ⟨nestedItems items, none⟩
    | other => ⟨mismatch [.object, .array] other, none⟩
  within value _ := by
    split
    · exact .nested (Nat.le_refl _)
    · exact within_nestedItems _
    · exact .report _ _

/-- The complaint about a name that is no name of a type. -/
def typeNameComplaints (name : String) : List Complaint :=
  if name = "any" ∨ (NodeType.ofName? name).isSome then [] else [.unknownTypeName name]

/-- What a rule for a union of types does with its element `i`. -/
def unionElement (i : Nat) : Json → List Step
  | .str name => (typeNameComplaints name).map .report
  | .obj members => [.nested [Nat.toDigits 10 i] (.obj members)]
  | other => [.report (.badUnionElement i (NodeType.of other))]

theorem within_unionElement (i : Nat) (v : Json) : Within v.size (unionElement i v) := by
  cases v with
  | str name => simp [unionElement, Within]
  | obj members => exact .nested (Nat.le_refl _)
  | _ => exact .report _ _

/-- A rule for a type name or an array of different type names and schemas, at least one. -/
def typeUnion : Rule where
  run value _ :=
    match value with
    | .str name => ⟨(typeNameComplaints name).map .report, none⟩
    | .arr items =>
      ⟨(if items.isEmpty then [.report .emptyUnion] else []) ++
        ((items.mapIdx unionElement).flatten ++
          if (Json.firstRepeat? items).isSome then [.report .repeatedUnionElement] else []), none⟩
    | other => ⟨mismatch [.string, .array] other, none⟩
  within value _ := by
    split
    · simp [Within]
    · refine .append (.ite (.report _ _) (.nil _))
        (.append (.flatten fun steps hs => ?_) (.ite (.report _ _) (.nil _)))
      obtain ⟨i, hi, rfl⟩ := List.mem_mapIdx.1 hs
      intro tokens v hv
      have h₁ := within_unionElement _ _ tokens v hv
      have h₂ := Json.size_le_sizeItems (List.getElem_mem hi)
      simp only [Json.size]
      omega
    · exact .report _ _

/-- What a rule for dependencies does with the dependency of one property. -/
def dependency (name : String) : Json → List Step
  | .str _ => []
  | .arr items => if items.all Json.isString then [] else [.report (.badDependencyList name)]
  | .obj members => [.nested [name.toList] (.obj members)]
  | other => [.report (.badDependency name (NodeType.of other))]

theorem within_dependency (name : String) (v : Json) : Within v.size (dependency name v) := by
  cases v with
  | str => exact .nil _
  | arr items => exact .ite (.nil _) (.report _ _)
  | obj members => exact .nested (Nat.le_refl _)
  | _ => exact .report _ _

/-- A rule for an object that says what each property needs: another property, a list of
properties or a schema. -/
def dependencies : Rule where
  run value _ :=
    match value with
    | .obj members => ⟨members.flatMap fun (name, value) => dependency name value, none⟩
    | other => ⟨mismatch [.object] other, none⟩
  within value _ := by
    split
    · refine .flatMap fun m hm tokens v hv => ?_
      have h₁ := within_dependency _ _ tokens v hv
      have h₂ := Json.size_le_sizeMembers hm
      simp only [Json.size]
      omega
    · exact .report _ _

end Rule

/-- The thirty standard keywords. -/
def Vocabulary.standard : Vocabulary where
  rules :=
    [("$schema", .uri), ("$ref", .uri), ("id", .uri), ("title", .ofType [.string]),
      ("description", .ofType [.string]), ("format", .ofType [.string]), ("default", .any),
      ("type", .typeUnion), ("disallow", .typeUnion), ("enum", .choices),
      ("extends", .schemaOrList), ("properties", .schemaMap), ("definitions", .schemaMap),
      ("patternProperties", .patternMap), ("additionalProperties", .boolOrSchema),
      ("additionalItems", .boolOrSchema), ("items", .schemaOrList),
      ("dependencies", .dependencies), ("minimum", .ofType NodeType.numeric),
      ("maximum", .ofType NodeType.numeric), ("divisibleBy", .positive),
      ("exclusiveMinimum", .flagOf "exclusiveMinimum" "minimum"),
      ("exclusiveMaximum", .flagOf "exclusiveMaximum" "maximum"),
      ("minLength", .leastSize "minLength" "maxLength"), ("maxLength", .size),
      ("minItems", .leastSize "minItems" "maxItems"), ("maxItems", .size), ("pattern", .pattern),
      ("uniqueItems", .ofType [.boolean]), ("required", .ofType [.boolean])]

end JsonSchema
