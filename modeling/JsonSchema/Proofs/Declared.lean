import JsonSchema.Proofs.Anchors
import JsonSchema.Proofs.Preorder
import Mathlib

/-!
# Names that schemas declare

A schema declares a name if its `id` is `#` and the name. A reference `#name` leads to the first
value of the document with this `id`, schema or not, and the name is read without its escapes. So it
leads to the first schema that declares the name exactly if no other value with the same `id` comes
earlier; and a name with escapes leads to what is called by the text that it stands for.

* `Json.Declares`: a value whose `id` is a name.
* `Vocabulary.IsFirstSchema`: the first schema of a document, among the checked ones, that declares
  a name.
* `Registry.locates_of_isLocal`: what a reference leads to in a registered document.
* `Registry.finds_declared_iff`: when this is the schema that declares the name.
-/

namespace JsonSchema

/-- A value with a name as its `id`. -/
def Json.Declares (v : Json) (name : List Char) : Prop :=
  v.get? "id" = some (.str (String.ofList ('#' :: name)))

/-- A value declares one name. -/
theorem Json.Declares.unique {v : Json} {name name' : List Char} (h : v.Declares name)
    (h' : v.Declares name') : name = name' := by
  have hids := Json.str.inj (Option.some.inj (h.symm.trans h'))
  exact (List.cons.inj (String.ofList_injective hids)).2

/-! ## Anchors in documents -/

namespace Instance

variable {d : Json} {m n : Instance} {name pointer : List Char}

/-- Pointers tell the nodes of a document apart. -/
theorem eq_of_pointer_eq (hd : d.WellFormed) (hm : m ∈ (root d).subtree)
    (hn : n ∈ (root d).subtree) (h : m.pointer = n.pointer) : m = n :=
  List.inj_on_of_nodup_map (nodup_pointers (n := .root d) hd) hm hn h

theorem IsFirst.mem {P : Json → Prop} (h : n.IsFirst P m) : m ∈ n.subtree := by
  obtain ⟨before, after, hnodes, -, -⟩ := h
  rw [hnodes]
  exact List.mem_append_right _ List.mem_cons_self

theorem isFirst_declares_iff :
    n.IsFirst (·.Declares name) m ↔
      n.subtree.find? (fun m => m.value.hasId (String.ofList ('#' :: name))) = some m := by
  rw [List.find?_eq_some_iff_append, Json.hasId_iff]
  constructor
  · rintro ⟨before, after, hnodes, hid, hbefore⟩
    refine ⟨hid, before, after, hnodes, fun x hx => ?_⟩
    rw [Bool.not_eq_true', ← Bool.not_eq_true]
    exact fun hx' => hbefore x hx (Json.hasId_iff.1 hx')
  · rintro ⟨hid, before, after, hnodes, hbefore⟩
    refine ⟨before, after, hnodes, hid, fun x hx hx' => ?_⟩
    have := hbefore x hx
    rw [Json.hasId_iff.2 hx'] at this
    cases this

end Instance

namespace Fragment

variable {d : Json} {name pointer : List Char}

/-- An anchor locates the first value that declares it. -/
theorem locate?_anchor_eq_some_iff : (anchor name).locate? d = some pointer ↔
    ∃ m, (Instance.root d).IsFirst (·.Declares name) m ∧ m.pointer = pointer := by
  simp only [Instance.isFirst_declares_iff]
  rw [locate?_anchor]
  exact Option.map_eq_some_iff

theorem locate?_anchor_eq_none_iff : (anchor name).locate? d = none ↔
    ∀ m ∈ (Instance.root d).subtree, ¬m.value.Declares name := by
  rw [locate?_anchor, Option.map_eq_none_iff, List.find?_eq_none]
  exact forall₂_congr fun m _ => not_congr Json.hasId_iff

end Fragment

/-! ## Declared names -/

namespace Vocabulary

variable {voc : Vocabulary} {d v : Json} {name pointer : List Char} {m : Instance}

/-- The first schema of a document that declares a name: among the values that a check visits as
schemas, in the order of the document. -/
def IsFirstSchema (voc : Vocabulary) (d : Json) (name : List Char) (m : Instance) : Prop :=
  ∃ before after, (Instance.root d).subtree = before ++ m :: after ∧
    ((m.pointer, m.value) ∈ voc.positions d ∧ m.value.Declares name) ∧
    ∀ x ∈ before, ¬((x.pointer, x.value) ∈ voc.positions d ∧ x.value.Declares name)

/-- No schema of a document declares a name. -/
def NoneDeclares (voc : Vocabulary) (d : Json) (name : List Char) : Prop :=
  ∀ pointer v, (pointer, v) ∈ voc.positions d → ¬v.Declares name

namespace IsFirstSchema

theorem mem (h : voc.IsFirstSchema d name m) : m ∈ (Instance.root d).subtree := by
  obtain ⟨before, after, hnodes, -, -⟩ := h
  rw [hnodes]
  exact List.mem_append_right _ List.mem_cons_self

theorem position (h : voc.IsFirstSchema d name m) : (m.pointer, m.value) ∈ voc.positions d := by
  obtain ⟨-, -, -, ⟨hp, -⟩, -⟩ := h
  exact hp

theorem declares (h : voc.IsFirstSchema d name m) : m.value.Declares name := by
  obtain ⟨-, -, -, ⟨-, hm⟩, -⟩ := h
  exact hm

/-- The first value that declares a name is the first schema to do so if it is a schema. -/
theorem of_isFirst (h : (Instance.root d).IsFirst (·.Declares name) m)
    (hp : (m.pointer, m.value) ∈ voc.positions d) : voc.IsFirstSchema d name m := by
  obtain ⟨before, after, hnodes, hm, hbefore⟩ := h
  exact ⟨before, after, hnodes, ⟨hp, hm⟩, fun x hx hx' => hbefore x hx hx'.2⟩

end IsFirstSchema

/-- Checked schemas are nodes of the document. -/
theorem exists_node_of_mem_positions (hd : d.WellFormed) (ha : standard.accepts d)
    (h : (pointer, v) ∈ standard.positions d) :
    ∃ m ∈ (Instance.root d).subtree, m.value = v ∧ m.pointer = pointer := by
  obtain ⟨tokens, rfl, hwalk⟩ := exists_walk ha hd (root_mem_positions _ _) h
  exact Instance.exists_mem_subtree_of_walk? (n := .root d) hwalk.leads

end Vocabulary

namespace Reference.IsLocal

variable {r : Reference} {name : List Char}

theorem toLocator (h : r.IsLocal name) : r.toLocator = .empty := by
  obtain ⟨written, hu, -, -⟩ := h.fragment_cases
  rw [Reference.toLocator, hu]
  rfl

theorem fragment (h : r.IsLocal name) : r.fragment = .ofText (Percent.decode name) := by
  obtain ⟨written, hu, rfl, -⟩ := h.fragment_cases
  rw [Reference.fragment, rawFragment, hu]
  rfl

end Reference.IsLocal

namespace Registry

open Vocabulary (standard)

variable {g : Registry} {r : Reference} {d : Json} {name pointer : List Char}

/-- What a look-up of a fragment in a nameless document finds. -/
structure Locates (d : Json) (r : Reference) (f : Fragment)
    (found : Except ResolveError SchemaNode) : Prop where
  ok : ∀ pointer, found = .ok (.of .empty d pointer) ↔ f.locate? d = some pointer
  dangling : found = .error (.dangling r) ↔ f.locate? d = none

/-- A reference that is a fragment alone is looked up in the nameless document. -/
theorem locates_of_isLocal (ha : standard.accepts d) (hv : g.vocabulary = standard)
    (hr : r.IsLocal name) :
    Locates d r (.ofText (Percent.decode name)) ((g.register .empty d).2.getSchema r).1 := by
  have hregistered : (g.register .empty d).1 = .ok () := by
    rw [register_fst, checked, hv, if_pos ha]
    rfl
  have hc : (g.register .empty d).2.cached? .empty = some (.ok d) :=
    cached?_register_self hregistered
  have hfound : ((g.register .empty d).2.getSchema r).1 = nodeOf r d := by
    rw [getSchema_fst, hr.toLocator, document_of_cached? hc]
    rfl
  rw [hfound, nodeOf, hr.toLocator, ← hr.fragment]
  constructor
  · intro pointer
    cases r.fragment.locate? d with
    | none => exact iff_of_false (by rintro ⟨⟩) (by rintro ⟨⟩)
    | some place =>
      refine ⟨fun h => ?_, fun h => by rw [Option.some.inj h]⟩
      exact congrArg (some ·.pointer) (Except.ok.inj h)
  · cases r.fragment.locate? d with
    | none => exact iff_of_true rfl rfl
    | some place => exact iff_of_false (by rintro ⟨⟩) (by rintro ⟨⟩)

/-- What a look-up of a name should find: the first schema that declares the name, and nothing if
there is none. -/
def FindsDeclared (d : Json) (name : List Char) (r : Reference)
    (found : Except ResolveError SchemaNode) : Prop :=
  (∃ m, standard.IsFirstSchema d name m ∧ found = .ok (.of .empty d m.pointer)) ∨
    (standard.NoneDeclares d name ∧ found = .error (.dangling r))

namespace Locates

variable {f : Fragment} {found : Except ResolveError SchemaNode}

/-- A look-up of an anchor finds the first value that declares it, and nothing if there is none. -/
theorem of_anchor (h : Locates d r (.anchor name) found) :
    (∀ m, (Instance.root d).IsFirst (·.Declares name) m → found = .ok (.of .empty d m.pointer)) ∧
      ((∀ m ∈ (Instance.root d).subtree, ¬m.value.Declares name) →
        found = .error (.dangling r)) := by
  refine ⟨fun m hm => (h.ok _).2 ?_, fun hnone => h.dangling.2 ?_⟩
  · exact Fragment.locate?_anchor_eq_some_iff.2 ⟨m, hm, rfl⟩
  · exact Fragment.locate?_anchor_eq_none_iff.2 hnone

/-- A name that is looked up as it is leads to the schema that declares it exactly if no other value
with this name comes earlier. -/
theorem findsDeclared_anchor_iff (h : Locates d r (.anchor name) found) (hd : d.WellFormed)
    (ha : standard.accepts d) :
    FindsDeclared d name r found ↔
      ∀ m, (Instance.root d).IsFirst (·.Declares name) m →
        (m.pointer, m.value) ∈ standard.positions d := by
  constructor
  · intro hfound m hm
    have hlocated := Fragment.locate?_anchor_eq_some_iff.2 ⟨m, hm, rfl⟩
    rcases hfound with ⟨m', hm', hfound⟩ | ⟨-, hfound⟩
    · have hpointer := Option.some.inj (hlocated.symm.trans ((h.ok _).1 hfound))
      rw [Instance.eq_of_pointer_eq hd hm.mem hm'.mem hpointer]
      exact hm'.position
    · rw [h.dangling.1 hfound] at hlocated
      cases hlocated
  · intro hfirst
    cases hlocated : (Fragment.anchor name).locate? d with
    | some place =>
      obtain ⟨m, hm, rfl⟩ := Fragment.locate?_anchor_eq_some_iff.1 hlocated
      exact .inl ⟨m, .of_isFirst hm (hfirst m hm), (h.ok _).2 hlocated⟩
    | none =>
      refine .inr ⟨fun pointer v hp hdeclares => ?_, h.dangling.2 hlocated⟩
      obtain ⟨m, hm, rfl, rfl⟩ := Vocabulary.exists_node_of_mem_positions hd ha hp
      exact Fragment.locate?_anchor_eq_none_iff.1 hlocated m hm hdeclares

/-- A name that is looked up as something else leads to the schema that declares it only if it is
looked up as the pointer to this schema. -/
theorem findsDeclared_iff_of_ne (h : Locates d r f found) (hd : d.WellFormed)
    (hf : f ≠ .anchor name) :
    FindsDeclared d name r found ↔
      (∃ m, standard.IsFirstSchema d name m ∧ f = .pointer m.pointer) ∨
        (standard.NoneDeclares d name ∧ f.locate? d = none) := by
  refine or_congr (exists_congr fun m => and_congr_right fun hm => ?_)
    (and_congr_right fun _ => h.dangling)
  rw [h.ok]
  cases f with
  | pointer place =>
    rw [Fragment.locate?, Option.map_eq_some_iff, Fragment.pointer.injEq]
    constructor
    · rintro ⟨-, -, he⟩
      exact he
    · exact fun he => ⟨m.value, he ▸ Instance.at?_of_mem_subtree hd hm.mem, he⟩
  | anchor text =>
    refine iff_of_false (fun hlocated => hf ?_) (by rintro ⟨⟩)
    obtain ⟨m', hm', hpointer⟩ := Fragment.locate?_anchor_eq_some_iff.1 hlocated
    have hsame := Instance.eq_of_pointer_eq hd hm'.mem hm.mem hpointer
    obtain ⟨-, -, -, hdeclares, -⟩ := hm'
    rw [hsame] at hdeclares
    rw [Json.Declares.unique hdeclares hm.declares]

end Locates

/-- **When a name leads to the schema that declares it.** A name is read without its escapes, and
leads to the first value that declares what is read, or else nowhere. If it stands for itself, this
is as it should be exactly if the first value that declares it is a schema. If it has escapes, it is
so only if the name is read as a pointer that happens to lead to the schema, or if there is nothing
to be found and nothing is. -/
theorem finds_declared_iff (hd : d.WellFormed) (ha : standard.accepts d)
    (hv : g.vocabulary = standard)
    (hr : Reference.parse (String.ofList ('#' :: name)) = .ok r) (hne : name ≠ [])
    (hslash : name.head? ≠ some '/') :
    let found := ((g.register .empty d).2.getSchema r).1
    let target := Fragment.ofText (Percent.decode name)
    (∀ text, target = .anchor text →
      (∀ m, (Instance.root d).IsFirst (·.Declares text) m →
        found = .ok (.of .empty d m.pointer)) ∧
      ((∀ m ∈ (Instance.root d).subtree, ¬m.value.Declares text) →
        found = .error (.dangling r))) ∧
    (Percent.decode name = name →
      (FindsDeclared d name r found ↔
        ∀ m, (Instance.root d).IsFirst (·.Declares name) m →
          (m.pointer, m.value) ∈ standard.positions d)) ∧
    (Percent.decode name ≠ name →
      (FindsDeclared d name r found ↔
        (∃ m, standard.IsFirstSchema d name m ∧ target = .pointer m.pointer) ∨
          (standard.NoneDeclares d name ∧ target.locate? d = none))) := by
  intro found target
  have hlocates : Locates d r target found :=
    locates_of_isLocal ha hv (Reference.isLocal_of_parse hr)
  have hanchor (text : List Char) (h : Fragment.ofText text = .anchor name) : text = name := by
    unfold Fragment.ofText at h
    split at h
    · cases h
    · exact Fragment.anchor.inj h
  refine ⟨fun text htarget => (htarget ▸ hlocates).of_anchor, fun hplain => ?_, fun hescaped => ?_⟩
  · have htarget : target = .anchor name := by
      change Fragment.ofText (Percent.decode name) = _
      rw [hplain, Fragment.ofText, if_neg (not_or.2 ⟨hne, hslash⟩)]
    exact (htarget ▸ hlocates).findsDeclared_anchor_iff hd ha
  · exact hlocates.findsDeclared_iff_of_ne hd fun htarget => hescaped (hanchor _ htarget)

/-- A schema that declares a name. -/
def declaring (name : String) : Json :=
  .obj [("id", .str ("#" ++ name))]

/-- The reference to a name. -/
def nameReference (name : String) : Reference :=
  ⟨⟨none, none, [], none, some name.toList⟩⟩

/-- A property that is called `id` and declares a name, and then a value with the same `id`. -/
def declaredFirst : Json :=
  .obj [("properties", .obj [("id", declaring "x")]), ("default", declaring "x")]

theorem finds_declared_property :
    Reference.parse "#x" = .ok (nameReference "x") ∧
      ((single declaredFirst).2.getSchema (nameReference "x")).1 =
        .ok (.of .empty declaredFirst "/properties/id".toList) ∧
      FindsDeclared declaredFirst ['x'] (nameReference "x")
        ((single declaredFirst).2.getSchema (nameReference "x")).1 := by
  have hd : declaredFirst.WellFormed := by
    simp [declaredFirst, declaring, Json.WellFormed, Json.WellFormedMembers]
  have ha : standard.accepts declaredFirst := by cbv
  have hparse : Reference.parse "#x" = .ok (nameReference "x") := by cbv
  have hpositions : standard.positions declaredFirst =
      [([], declaredFirst), ("/properties/id".toList, declaring "x")] := by
    cbv
  have hfind : (Instance.root declaredFirst).subtree.find? (fun m => m.value.hasId "#x") =
      some ⟨declaring "x", "/properties/id".toList, some (.field "id")⟩ := by
    cbv
  have hfirst : ∀ m, (Instance.root declaredFirst).IsFirst (·.Declares ['x']) m →
      m = ⟨declaring "x", "/properties/id".toList, some (.field "id")⟩ := fun m hm =>
    Option.some.inj ((Instance.isFirst_declares_iff.1 hm).symm.trans hfind)
  obtain ⟨hfound, hplain, -⟩ := finds_declared_iff (g := ⟨[], standard, [], []⟩) hd ha rfl
    hparse (by decide) (by decide)
  refine ⟨hparse, (hfound ['x'] (by cbv)).1 _ (Instance.isFirst_declares_iff.2 hfind),
    (hplain (by cbv)).2 fun m hm => ?_⟩
  rw [hfirst m hm, hpositions]
  exact List.mem_cons_of_mem _ List.mem_cons_self

/-- A value with an `id` that is no schema, and then a schema that declares the same name. -/
def declaredLast : Json :=
  .obj [("default", declaring "x"), ("properties", .obj [("a", declaring "x")])]

/-- A schema that declares a name with an escape. -/
def declaredEscaped : Json :=
  .obj [("definitions", .obj [("p", declaring "a%20b")])]

/-- **Names that do not lead to the schema that declares them**: one that a value has before, which
is no schema, and one with an escape. -/
theorem not_finds_declared_default_or_escaped :
    (declaredLast.WellFormed ∧ standard.accepts declaredLast ∧
      Reference.parse "#x" = .ok (nameReference "x") ∧
      ¬FindsDeclared declaredLast ['x'] (nameReference "x")
        ((single declaredLast).2.getSchema (nameReference "x")).1) ∧
    (declaredEscaped.WellFormed ∧ standard.accepts declaredEscaped ∧
      Reference.parse "#a%20b" = .ok (nameReference "a%20b") ∧
      ¬FindsDeclared declaredEscaped "a%20b".toList (nameReference "a%20b")
        ((single declaredEscaped).2.getSchema (nameReference "a%20b")).1) := by
  constructor
  · have hpositions : standard.positions declaredLast =
        [([], declaredLast), ("/properties/a".toList, declaring "x")] := by
      cbv
    have hfound : ((single declaredLast).2.getSchema (nameReference "x")).1 =
        .ok (.of .empty declaredLast "/default".toList) := by
      cbv
    refine ⟨by simp [declaredLast, declaring, Json.WellFormed, Json.WellFormedMembers], by cbv,
      by cbv, ?_⟩
    rw [hfound]
    rintro (⟨m, hm, he⟩ | ⟨-, he⟩)
    · have hpointer : "/default".toList = m.pointer := congrArg (·.pointer) (Except.ok.inj he)
      have hposition := hm.position
      rw [← hpointer, hpositions] at hposition
      simp at hposition
    · cases he
  · have hpositions : standard.positions declaredEscaped =
        [([], declaredEscaped), ("/definitions/p".toList, declaring "a%20b")] := by
      cbv
    have hfound : ((single declaredEscaped).2.getSchema (nameReference "a%20b")).1 =
        .error (.dangling (nameReference "a%20b")) := by
      cbv
    refine ⟨by simp [declaredEscaped, declaring, Json.WellFormed, Json.WellFormedMembers], by cbv,
      by cbv, ?_⟩
    rw [hfound]
    rintro (⟨m, -, he⟩ | ⟨hnone, -⟩)
    · cases he
    · refine hnone "/definitions/p".toList (declaring "a%20b") ?_ (by cbv)
      rw [hpositions]
      exact List.mem_cons_of_mem _ List.mem_cons_self

end Registry

end JsonSchema
