import JsonSchema.Registry
import Mathlib

/-!
# Documents that a registry keeps

`Registry.kept?` is the document that a registry keeps for a locator, without the failures that it
keeps as well.

* `Registry.cached?_put`: keeping an outcome changes what is kept for this locator only.
* `Registry.document_of_cached?`: what is kept is not loaded again.
* `Registry.Replays`: a registry without fetchers gives the same nodes however often it is asked.
* `Registry.exists_of_seen?`: what it gives lies in a document that it keeps.
-/

namespace JsonSchema.Registry

variable {g g' : Registry} {r locator : Reference} {outcome : Outcome}

/-! ## Outcomes in the cache -/

theorem lookup_filter_ne {α β : Type} [BEq α] [LawfulBEq α] {k l : α} (h : l ≠ k)
    (entries : List (α × β)) : (entries.filter fun e => e.1 != k).lookup l = entries.lookup l := by
  induction entries with
  | nil => rfl
  | cons e rest ih =>
    obtain ⟨a, b⟩ := e
    by_cases ha : a = k
    · have hl : (l == k) = false := by simpa using h
      simp [List.lookup_cons, ih, ha, hl]
    · simp [List.lookup_cons, ih, ha]

theorem cached?_put (g : Registry) (locator : Reference) (outcome : Outcome) (r : Reference) :
    (g.put locator outcome).cached? r =
      if r.locator = locator.locator then some outcome else g.cached? r := by
  unfold cached? put
  by_cases h : r.locator = locator.locator
  · simp [h]
  · have hb : (r.locator == locator.locator) = false := by simpa using h
    rw [if_neg h, List.lookup_cons, hb]
    exact lookup_filter_ne h g.cache

theorem cached?_putNew (g : Registry) (locator : Reference) (outcome : Outcome) (r : Reference) :
    (g.putNew locator outcome).cached? r =
      if r.locator = locator.locator then some ((g.cached? r).getD outcome) else g.cached? r := by
  unfold putNew
  by_cases hr : r.locator = locator.locator
  · have hc : g.cached? r = g.cached? locator := by simp only [cached?, hr]
    rw [if_pos hr, hc]
    cases h : g.cached? locator with
    | some kept => rw [Option.isSome_some, if_pos rfl, hc, h]; rfl
    | none =>
      rw [Option.isSome_none, if_neg Bool.false_ne_true, cached?_put, if_pos hr]
      rfl
  · rw [if_neg hr]
    split
    · rfl
    · rw [cached?_put, if_neg hr]

/-- What is kept is given without a change. -/
theorem document_of_cached? (h : g.cached? locator = some outcome) :
    g.document locator = (outcome, g) := by
  simp only [document, h]

/-- The second locator of a document is neither empty nor the first one. -/
theorem secondLocator?_eq_some {locator second : Reference} {document : Json}
    (h : locator.secondLocator? document = some second) :
    ∃ id r, document.get? "id" = some (.str id) ∧ Reference.parse id = .ok r ∧
      second = (locator.resolve r).toLocator ∧ second ≠ .empty ∧
      second.locator ≠ locator.locator := by
  unfold Reference.secondLocator? at h
  split at h
  · rename_i id hid
    split at h
    · rename_i r hr
      simp only at h
      split at h
      · cases h
      · rename_i hne
        cases h
        rw [Bool.or_eq_true, not_or] at hne
        refine ⟨id, r, hid, hr, rfl, fun he => hne.1 ?_, fun he => hne.2 (decide_eq_true he)⟩
        rw [he]
        rfl
    · cases h
  · cases h

/-- The second locator of a document whose `id` is at hand. -/
theorem secondLocator?_of_parse {locator second r : Reference} {document : Json} {id : String}
    (hid : document.get? "id" = some (.str id)) (hr : Reference.parse id = .ok r)
    (h : locator.secondLocator? document = some second) :
    second = (locator.resolve r).toLocator ∧ second ≠ .empty := by
  obtain ⟨id', r', hid', hr', he, hne, -⟩ := secondLocator?_eq_some h
  rw [hid] at hid'
  cases hid'
  rw [hr] at hr'
  cases hr'
  exact ⟨he, hne⟩

/-! ## Registering -/

theorem cached?_foldl_put (touched : List Reference) (g : Registry) (outcome : Outcome)
    (r : Reference) :
    (touched.foldl (fun g l => g.put l outcome) g).cached? r =
      if r.locator ∈ touched.map Reference.locator then some outcome else g.cached? r := by
  induction touched generalizing g with
  | nil => rfl
  | cons l rest ih =>
    rw [List.foldl_cons, ih, List.map_cons, cached?_put]
    by_cases hrest : r.locator ∈ rest.map Reference.locator
    · simp [hrest]
    · simp [hrest]

/-- The locators that registering a document writes: the one that it is registered for and the one
that its `id` names, if the document is a schema. -/
def filedFor (g : Registry) (r : Reference) (document : Json) : List Reference :=
  if g.vocabulary.accepts document then
    r.toLocator :: (r.toLocator.secondLocator? document).toList
  else []

theorem register_eq (g : Registry) (r : Reference) (document : Json) :
    (g.register r document).2 =
      (g.filedFor r document).foldl (fun g l => g.put l (.ok document)) g := by
  unfold register filedFor checked
  by_cases ha : g.vocabulary.accepts document = true
  · simp only [ha, if_true]
    cases r.toLocator.secondLocator? document <;> rfl
  · simp only [ha]
    rfl

theorem register_keeps (g : Registry) (r : Reference) (document : Json) :
    (g.register r document).2.fetchers = g.fetchers ∧
      (g.register r document).2.vocabulary = g.vocabulary := by
  unfold register
  simp only
  split
  · exact ⟨rfl, rfl⟩
  · split <;> exact ⟨rfl, rfl⟩

/-- What is kept after a document was registered. -/
theorem cached?_register (g : Registry) (r : Reference) (document : Json) (l : Reference) :
    (g.register r document).2.cached? l =
      if l.locator ∈ (g.filedFor r document).map Reference.locator then some (.ok document)
      else g.cached? l := by
  rw [register_eq, cached?_foldl_put]

theorem accepts_of_register {document : Json} (h : (g.register r document).1 = .ok ()) :
    g.vocabulary.accepts document := by
  by_contra hn
  simp only [register, checked, if_neg hn] at h
  cases h

/-- A document that was registered is kept for its locator. -/
theorem cached?_register_self {document : Json} (h : (g.register r document).1 = .ok ()) :
    (g.register r document).2.cached? r.toLocator = some (.ok document) := by
  rw [cached?_register, if_pos]
  simp [filedFor, accepts_of_register h]

/-- A document that was registered is kept for its second locator, too. -/
theorem cached?_register_second {second : Reference} {document : Json}
    (h : (g.register r document).1 = .ok ())
    (hs : r.toLocator.secondLocator? document = some second) :
    (g.register r document).2.cached? second = some (.ok document) := by
  rw [cached?_register, if_pos]
  simp [filedFor, accepts_of_register h, hs]

/-! ## Kept documents -/

/-- The document that is kept for a locator. -/
def kept? (g : Registry) (locator : Reference) : Option Json :=
  (g.cached? locator).bind Except.toOption

theorem kept?_put_error (h : g.cached? locator = none) (cause : ResolveError) (r : Reference) :
    (g.put locator (.error cause)).kept? r = g.kept? r := by
  unfold kept?
  rw [cached?_put]
  split
  · rename_i hr
    have hc : g.cached? r = none := by simpa only [cached?, hr] using h
    rw [hc]
    rfl
  · rfl

/-- A failure that comes to be kept is no document. -/
theorem size_put_error (h : g.cached? locator = none) (cause : ResolveError) :
    (g.put locator (.error cause)).size = g.size := by
  have hfilter : g.cache.filter (fun e => e.1 != locator.locator) = g.cache := by
    refine List.filter_eq_self.2 fun e he => ?_
    rw [bne_comm]
    exact List.lookup_eq_none_iff.1 h e he
  unfold size put
  rw [hfilter, List.map_cons, List.foldr_cons, Nat.zero_add]

theorem cached?_of_kept? {d : Json} (h : g.kept? r = some d) : g.cached? r = some (.ok d) := by
  obtain ⟨outcome, hc, hd⟩ := Option.bind_eq_some_iff.1 h
  cases outcome with
  | error cause => cases hd
  | ok d' =>
    cases hd
    exact hc

theorem mem_cache_of_kept? {d : Json} (h : g.kept? r = some d) : (r.locator, .ok d) ∈ g.cache := by
  obtain ⟨l₁, l₂, hl, -⟩ := List.lookup_eq_some_iff.1 (cached?_of_kept? h)
  rw [hl]
  exact List.mem_append_right _ List.mem_cons_self

/-! ## Look-ups -/

/-- What a look-up gives is given by what is kept for its locator. -/
theorem getSchema_fst (g : Registry) (r : Reference) :
    (g.getSchema r).1 = (g.document r.toLocator).1.bind (nodeOf r) := rfl

theorem nodeOf_eq_ok {d : Json} {s : SchemaNode} (h : nodeOf r d = .ok s) :
    ∃ pointer, r.fragment.locate? d = some pointer ∧ s = .of r.toLocator d pointer := by
  unfold nodeOf at h
  split at h
  · rename_i pointer hp
    cases h
    exact ⟨pointer, hp, rfl⟩
  · cases h

/-! ## Registries without fetchers -/

/-- The schema at a place seen from another one, if there is one. -/
def seen? (g : Registry) (n : SchemaNode) (target : Target) : Option SchemaNode :=
  (g.find n target).1.toOption

/-- A node shows a schema at a place. -/
def Sees (g : Registry) (n : SchemaNode) (target : Target) (s : SchemaNode) : Prop :=
  g.seen? n target = some s

/-- A registry without fetchers that keeps the same documents as another one. -/
structure Replays (g g' : Registry) : Prop where
  offline : g.fetchers = []
  fetchers : g'.fetchers = g.fetchers
  kept : ∀ r, g'.kept? r = g.kept? r

namespace Replays

theorem refl (h : g.fetchers = []) : g.Replays g :=
  ⟨h, rfl, fun _ => rfl⟩

theorem load_eq_error (h : g.Replays g') (locator : Reference) :
    ∃ cause, g'.load locator = (.error cause, false) := by
  unfold load
  rw [h.fetchers, h.offline]
  cases locator.scheme with
  | none => exact ⟨_, rfl⟩
  | some scheme => exact ⟨_, rfl⟩

/-- A document is given exactly if it is kept, and nothing else comes to be kept. -/
theorem document (h : g.Replays g') (locator : Reference) :
    (g'.document locator).1.toOption = g.kept? locator ∧ g.Replays (g'.document locator).2 := by
  cases hc : g'.cached? locator with
  | some outcome =>
    rw [document_of_cached? hc, ← h.kept, kept?, hc]
    exact ⟨rfl, h⟩
  | none =>
    obtain ⟨cause, hl⟩ := h.load_eq_error locator
    have hk : g'.kept? locator = none := by rw [kept?, hc]; rfl
    simp only [Registry.document, hc, hl, putAlias]
    refine ⟨by rw [← h.kept, hk]; rfl, h.offline, h.fetchers, fun r => ?_⟩
    rw [kept?_put_error (by exact hc), ← h.kept]
    rfl

theorem getSchema (h : g.Replays g') (r : Reference) :
    (g'.getSchema r).1.toOption = (g.kept? r.toLocator).bind (fun d => (nodeOf r d).toOption) ∧
      g.Replays (g'.getSchema r).2 := by
  obtain ⟨hd, hg⟩ := h.document r.toLocator
  refine ⟨?_, hg⟩
  rw [← hd]
  rcases hx : g'.document r.toLocator with ⟨outcome, g''⟩
  simp only [Registry.getSchema, hx]
  cases outcome <;> rfl

/-- A look-up adds no document. -/
theorem size_find (h : g.Replays g') (n : SchemaNode) (target : Target) :
    (g'.find n target).2.size = g'.size := by
  unfold Registry.find
  cases n.locate target with
  | error cause => rfl
  | ok r =>
    change (g'.document r.toLocator).2.size = g'.size
    cases hc : g'.cached? r.toLocator with
    | some outcome => rw [document_of_cached? hc]
    | none =>
      obtain ⟨cause, hl⟩ := h.load_eq_error r.toLocator
      simp only [Registry.document, hc, hl, putAlias]
      exact size_put_error hc cause

/-- **Without fetchers, a place shows the same schema at any time.** -/
theorem find (h : g.Replays g') (n : SchemaNode) (target : Target) :
    (g'.find n target).1.toOption = g.seen? n target ∧ g.Replays (g'.find n target).2 := by
  unfold seen? Registry.find
  cases n.locate target with
  | error cause => exact ⟨rfl, h⟩
  | ok r =>
    obtain ⟨hnow, hlater⟩ := h.getSchema r
    exact ⟨hnow.trans ((refl h.offline).getSchema r).1.symm, hlater⟩

end Replays

/-- A schema that is seen is what a reference addresses in a document that is kept. -/
theorem exists_of_seen? {n s : SchemaNode} {target : Target} (h : g.fetchers = [])
    (hs : g.seen? n target = some s) : ∃ r d pointer, n.locate target = .ok r ∧
      g.kept? r.toLocator = some d ∧ r.fragment.locate? d = some pointer ∧
      s = .of r.toLocator d pointer := by
  unfold seen? find at hs
  cases hl : n.locate target with
  | error cause =>
    simp only [hl] at hs
    cases hs
  | ok r =>
    simp only [hl] at hs
    rw [((Replays.refl h).getSchema r).1] at hs
    obtain ⟨d, hd, hn⟩ := Option.bind_eq_some_iff.1 hs
    cases hnode : nodeOf r d with
    | error cause =>
      rw [hnode] at hn
      cases hn
    | ok s' =>
      rw [hnode] at hn
      cases hn
      obtain ⟨pointer, hp, rfl⟩ := nodeOf_eq_ok hnode
      exact ⟨r, d, pointer, rfl, hd, hp, rfl⟩

/-- A schema that is seen lies in a document that is kept. -/
theorem exists_mem_cache_of_seen? {n s : SchemaNode} {target : Target} (h : g.fetchers = [])
    (hs : g.seen? n target = some s) : ∃ key, (key, .ok s.document) ∈ g.cache := by
  obtain ⟨r, d, pointer, -, hd, -, rfl⟩ := exists_of_seen? h hs
  exact ⟨_, mem_cache_of_kept? hd⟩

end JsonSchema.Registry
