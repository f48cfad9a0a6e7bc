import JsonSchema.Proofs.Descent
import JsonSchema.Proofs.Simulation
import Mathlib

/-!
# Evaluations in two registries

A node knows its document, but an evaluation looks up the schemas below it in the registry, by the
locator of the document. Another document may be kept there by then. The evaluation comes out alike
if the two documents have the same value at the place of the node.

* `Registry.AreTwins`: nodes at one place, of two documents with the same value there.
* `Registry.isSimulation_areTwins`: evaluations of twins go side by side.
* `Registry.validate_rebound`: when a validation comes out as it did before.
-/

namespace JsonSchema

namespace Registry

open Validation Validation.Evaluation

variable {g g' : Registry} {n r : Reference} {d d' v : Json} {s s' : SchemaNode} {t : Target}
  {tokens : List (List Char)} {voc : Vocabulary}

/-! ## Twins -/

/-- Nodes at one place that have the same value, with a document each in which this value is at the
place. The value holds no references. -/
structure AreTwins (n : Reference) (d d' : Json) (s s' : SchemaNode) : Prop where
  locators : s.locator = n ∧ s'.locator = n
  pointer : s'.pointer = s.pointer
  raw : s'.raw = s.raw
  places : (d.at? s.pointer).getD .null = s.raw ∧ (d'.at? s.pointer).getD .null = s.raw
  wellFormed : s.raw.WellFormed
  unreferring : s.raw.Every fun name _ => name ≠ "$ref"

theorem AreTwins.pairOf_eq (h : AreTwins n d d' s s') (m : Instance) :
    pairOf s' m = pairOf s m := by
  rw [pairOf, pairOf, SchemaNode.reference, SchemaNode.reference, h.locators.1, h.locators.2,
    h.pointer]

/-- A place at which a schema has places below it checked is there. -/
theorem at?_of_checks {pointer : List Char} (hv : (d.at? pointer).getD .null = v)
    (h : v.Checks (.below tokens)) : d.at? pointer = some v := by
  cases hat : d.at? pointer with
  | some w =>
    rw [hat] at hv
    rw [← hv, Option.getD_some]
  | none =>
    -- Where there is nothing, there are no members either.
    rw [hat] at hv
    obtain ⟨_, -, hnests⟩ := h
    exact absurd (hnests []) (Vocabulary.not_nests_of_members_eq_nil (hv ▸ rfl) _ _)

/-- **A look-up leads from twins to twins** with a smaller value. -/
theorem exists_find_of_areTwins (hn : n.IsStable) (hc : g.cached? n = some (.ok d))
    (hc' : g'.cached? n = some (.ok d')) (h : AreTwins n d d' s s') (ht : s.raw.Checks t) :
    ∃ a b, g.find s t = (.ok a, g) ∧ g'.find s' t = (.ok b, g') ∧ AreTwins n d d' a b ∧
      a.raw.size < s.raw.size := by
  cases t with
  | below tokens =>
    have hat := at?_of_checks h.places.1 ht
    have hat' := at?_of_checks h.places.2 ht
    obtain ⟨v, hv, hnests⟩ := ht
    have hbelow := (Json.at?_foldl_child hat tokens).trans hv
    have hbelow' := (Json.at?_foldl_child hat' tokens).trans hv
    have hfind' := find_below hn hc' h.locators.2 (h.pointer ▸ hat') hv
    rw [h.pointer] at hfind'
    have hraw := SchemaNode.raw_of_at? n hbelow
    refine ⟨_, _, find_below hn hc h.locators.1 hat hv, hfind', ⟨⟨rfl, rfl⟩, rfl, ?_, ⟨rfl, ?_⟩,
      ?_, ?_⟩, ?_⟩
    · rw [hraw, SchemaNode.raw_of_at? n hbelow']
    · rw [hraw]
      exact congrArg (·.getD .null) hbelow'
    · rw [hraw]
      exact h.wellFormed.walk? hv
    · rw [hraw]
      exact h.unreferring.walk? hv
    · rw [hraw]
      exact (hnests s.pointer).size_lt
  | referenced value => exact absurd rfl (h.unreferring.of_mem ht)

/-! ## Evaluations of twins -/

/-- Two registries that stay as they are, with the same faults and messages. -/
def fixedLink (g g' : Registry) : Link where
  registries a b := a = g ∧ b = g'
  faults := Eq
  message := id

/-- Frames of twins on one node, which may nest deeper than the size of the value of the twins. -/
structure AreTwinFrames (n : Reference) (d d' : Json) (depth : Nat) (F : Frame) (depth' : Nat)
    (F' : Frame) : Prop where
  twins : AreTwins n d d' F.schema F'.schema
  node : F'.node = F.node
  active : F'.active = F.active
  depths : F.schema.raw.size ≤ depth ∧ F.schema.raw.size ≤ depth'

theorem AreTwinFrames.pair_eq {depth depth' : Nat} {F F' : Frame}
    (h : AreTwinFrames n d d' depth F depth' F') : F'.pair = F.pair := by
  rw [Frame.pair, h.node, h.twins.pairOf_eq]
  rfl

theorem AreTwinFrames.entered_eq {depth depth' : Nat} {F F' : Frame}
    (h : AreTwinFrames n d d' depth F depth' F') : F'.entered = F.entered := by
  rw [Frame.entered, Frame.entered, h.pair_eq, h.active]

/-- **An evaluation of twins comes out alike**, however deep each of the two may nest beyond the
size of their value. -/
theorem isSimulation_areTwins (hn : n.IsStable) (hc : g.cached? n = some (.ok d))
    (hc' : g'.cached? n = some (.ok d')) :
    IsSimulation (fixedLink g g') (AreTwinFrames n d d') where
  forgetting := by
    rintro _ F _ F' h e _ rfl
    rw [h.entered_eq]
    rfl
  exhausted := by
    rintro depth F depth' F' h (rfl | rfl)
    · exact absurd h.depths.1 (Nat.not_le.2 (Json.size_pos _))
    · exact absurd h.depths.2 (Nat.not_le.2 (Json.size_pos _))
  raw h := h.twins.raw
  value h := by rw [h.node]
  active h := by rw [h.pair_eq, h.active]
  message h _ _ := by
    rw [h.node]
    rfl
  overflow h := by
    rw [h.entered_eq]
    rfl
  found {_ F _ F' t m m'} h _ hb hl := by
    obtain ⟨a, b, ha, hb', htwins, hlt⟩ :=
      exists_find_of_areTwins hn hc hc' h.twins (hl.checks h.twins.wellFormed)
    have hm : m' = m := by
      rw [h.node] at hb
      cases hb <;> rfl
    refine .find ?_
    rintro _ _ ⟨rfl, rfl⟩
    rw [ha, hb']
    exact ⟨⟨rfl, rfl⟩, .ok ⟨htwins, hm, h.entered_eq,
      Nat.le_of_lt_succ (hlt.trans_le h.depths.1), Nat.le_of_lt_succ (hlt.trans_le h.depths.2)⟩⟩

/-- The value of a node is part of its document, if the node is a place of it. -/
theorem exists_walk?_or_raw_eq_null (s : SchemaNode) :
    (∃ tokens, s.document.walk? tokens = some s.raw) ∨ s.raw = .null := by
  unfold SchemaNode.raw
  cases hat : s.document.at? s.pointer with
  | none => exact .inr rfl
  | some v =>
    obtain ⟨tokens, -, hw⟩ := Option.bind_eq_some_iff.1 hat
    exact .inl ⟨tokens, hw⟩

theorem size_raw_le (s : SchemaNode) : s.raw.size ≤ s.document.size := by
  rcases exists_walk?_or_raw_eq_null s with ⟨tokens, hw⟩ | hnull
  · exact Json.size_le_of_walk? hw
  · rw [hnull]
    exact s.document.size_pos

/-- **A validation comes out alike in two registries** that keep documents in which the bound node
has its value. -/
theorem validate_of_areTwins (hn : n.IsStable) (hc : g.cached? n = some (.ok d))
    (hc' : g'.cached? n = some (.ok d')) (h : AreTwins n d d' s s) (value : Json) :
    (s.validate g value).1 = (s.validate g' value).1 := by
  have hbound (g : Registry) : s.raw.size ≤ depthBound g s (Instance.root value).value :=
    (size_raw_le s).trans (size_lt_depthBound g s _).le
  have hframes : AreTwinFrames n d d' (depthBound g s (Instance.root value).value)
      ⟨[], s, .root value⟩ (depthBound g' s (Instance.root value).value) ⟨[], s, .root value⟩ :=
    ⟨h, rfl, rfl, hbound g, hbound g'⟩
  have hrun := (isSimulation_areTwins hn hc hc').relates_visit hframes
  have hg : (fixedLink g g').registries g g' := ⟨rfl, rfl⟩
  obtain ⟨-, ho, added, hmessages, hmessages'⟩ := Relates.validate {} {} hg hrun
  rw [validate_fst, validate_fst, hmessages, hmessages', ho.eq rfl,
    show added.map (fixedLink g g').message = added from List.map_id added]

/-- **When a bound schema validates as it did before.** A reference was answered with a node of a
document without references. After more calls, the node gives the same outcome for every value, if
the document that was last written under its locator has the same value at its place. -/
theorem validate_rebound {before later : List Call} (hr : r.IsNormal)
    (hs : ((called voc before).getSchema r).1 = .ok s) (hw : s.document.WellFormed)
    (hrefs : s.document.Every fun name _ => name ≠ "$ref")
    (hlast : LastFiled voc (before ++ later) s.locator.locator d')
    (hat : d'.at? s.pointer = some s.raw) (value : Json) :
    (s.validate (called voc (before ++ later)) value).1 =
      (s.validate (called voc before) value).1 := by
  have hraw := exists_walk?_or_raw_eq_null s
  obtain ⟨d, pointer, hfiled, -, rfl⟩ := getSchema_called_eq_ok_iff.1 hs
  have hn := Reference.isStable_toLocator hr
  have hc := cached?_of_kept? ((kept?_called_eq_some_iff before r.toLocator).2 hfiled)
  have hc' := cached?_of_kept? ((kept?_called_eq_some_iff _ r.toLocator).2 hlast)
  refine (validate_of_areTwins hn hc hc' ⟨⟨rfl, rfl⟩, rfl, rfl, ⟨rfl, ?_⟩, ?_, ?_⟩ value).symm
  · exact congrArg (·.getD .null) hat
  · rcases hraw with ⟨tokens, hwalk⟩ | hnull
    · exact hw.walk? hwalk
    · rw [hnull]
      trivial
  · rcases hraw with ⟨tokens, hwalk⟩ | hnull
    · exact hrefs.walk? hwalk
    · rw [hnull]
      trivial

/-- A schema that leaves the type to another one. -/
def version (type : String) : Json :=
  .obj [("extends", .obj [("type", .str type)])]

/-- A document with such a schema as a definition. -/
def titled (title : String) : Json :=
  .obj [("title", .str title), ("definitions", .obj [("t", version "string")])]

/-- The reference to the definition. -/
def definitionReference : Reference :=
  ⟨⟨none, none, [], none, some "/definitions/t".toList⟩⟩

theorem validate_rebound_titled :
    ∃ s, ((called .standard [.register .empty (titled "x")]).getSchema definitionReference).1 =
        .ok s ∧
      (s.validate (called .standard [.register .empty (titled "x"), .clear,
          .register .empty (titled "y")]) .null).1 =
        (s.validate (called .standard [.register .empty (titled "x")]) .null).1 := by
  have hs : ((called .standard [.register .empty (titled "x")]).getSchema
      definitionReference).1 = .ok (.of .empty (titled "x") "/definitions/t".toList) := by
    cbv
  have hr : definitionReference.IsNormal :=
    Reference.isNormal_of_parse (by cbv : Reference.parse "#/definitions/t" = _)
  have hkept : (called .standard ([.register .empty (titled "x")] ++ [.clear,
      .register .empty (titled "y")])).kept? .empty = some (titled "y") := by
    cbv
  refine ⟨_, hs, validate_rebound hr hs ?_ ?_ ((kept?_called_eq_some_iff _ .empty).1 hkept)
    (by cbv) _⟩
  · simp [SchemaNode.of, titled, version, Json.WellFormed, Json.WellFormedMembers]
  · simp [SchemaNode.of, titled, version, Json.Every, Json.EveryMember]

/-- **A bound schema follows its locator**: once another document is kept there, the schemas below
the node are those of that document. -/
theorem validate_differs_of_rebound :
    ∃ s, ((called .standard [.register .empty (version "string")]).getSchema .empty).1 = .ok s ∧
      s.document.WellFormed ∧ (s.document.Every fun name _ => name ≠ "$ref") ∧
      (s.validate (called .standard [.register .empty (version "string"),
          .register .empty (version "integer")]) (.str "x")).1 ≠
        (s.validate (called .standard [.register .empty (version "string")]) (.str "x")).1 := by
  refine ⟨.of .empty (version "string") [], by cbv, ?_, ?_, fun he => ?_⟩
  · simp [SchemaNode.of, version, Json.WellFormed, Json.WellFormedMembers]
  · simp [SchemaNode.of, version, Json.Every, Json.EveryMember]
  have hafter : ((SchemaNode.of .empty (version "string") []).validate
      (called .standard [.register .empty (version "string"),
        .register .empty (version "integer")]) (.str "x")).1.map Report.valid = .ok false := by
    cbv
  have hbefore : ((SchemaNode.of .empty (version "string") []).validate
      (called .standard [.register .empty (version "string")])
      (.str "x")).1.map Report.valid = .ok true := by
    cbv
  rw [he, hbefore] at hafter
  cases hafter

end Registry

end JsonSchema
