import JsonSchema.Proofs.Alias
import JsonSchema.Proofs.Fetched
import JsonSchema.Proofs.Remainder
import Mathlib

/-!
# Registries without fetchers

A registry without fetchers is a map from the texts of locators to documents. Registering writes
the map, clearing empties it, and look-ups read it. Failures are kept by the texts of locators,
too, but a text may be that of two locators: `./a:b` is written as `a:b` once its path has been
tidied up, and has no scheme. One of them may come to be answered with the failure of the other.

* `Registry.kept?_run_eq_some_iff`: what one call does to the map.
* `Registry.kept?_called_eq_some_iff`: what a run of calls does to the map.
* `Registry.getSchema_called_eq_ok_iff`: when a look-up gives a node.
* `Registry.getSchema_called_insert`: look-ups and registrations that fail change no answer.
* `Registry.answers_of_calls`: which calls the answers depend on.
-/

namespace JsonSchema

/-- What is asked of a registry. -/
inductive Registry.Call
  | register (r : Reference) (document : Json)
  | registerRoot (document : Json)
  | getSchema (r : Reference)
  | isCached (r : Reference)
  | clear

namespace Registry

variable {g g' : Registry} {voc : Vocabulary} {c : Call} {key : List Char}
  {r l n locator : Reference} {d : Json} {cause : ResolveError}

namespace Call

/-- The registry after a call, whatever the call gives. -/
def run (g : Registry) : Call → Registry
  | register r document => (g.register r document).2
  | registerRoot document => (g.registerRoot document).2
  | getSchema r => (g.getSchema r).2
  | isCached _ => g
  | clear => g.clear

/-- The document that a call registers and the locator for which it does so, if it succeeds. -/
def registered? (g : Registry) : Call → Option (Reference × Json)
  | register r document => (g.register r document).1.toOption.map fun _ => (r.toLocator, document)
  | registerRoot document => (g.registerRoot document).1.toOption.map fun n => (n, document)
  | getSchema _ | isCached _ | clear => none

/-- A call registers a document and writes it under a text: that of its locator or of the one that
its `id` names. -/
def Files (g : Registry) (c : Call) (key : List Char) (d : Json) : Prop :=
  ∃ n, c.registered? g = some (n, d) ∧ key ∈ (locatorsOf n d).map Reference.locator

/-- A call is a look-up or a registration that fails. -/
def IsIdle (g : Registry) (c : Call) : Prop :=
  c ≠ .clear ∧ c.registered? g = none

end Call

/-- The registry after some calls. -/
def calls (g : Registry) (cs : List Call) : Registry :=
  cs.foldl Call.run g

/-- What a registry without fetchers has become that kept nothing before some calls. -/
def called (voc : Vocabulary) (cs : List Call) : Registry :=
  (fresh [] voc).calls cs

/-- The last call that wrote a document under a text wrote this one, and nothing was cleared
since. -/
def LastFiled (voc : Vocabulary) (cs : List Call) (key : List Char) (d : Json) : Prop :=
  ∃ before c later, cs = before ++ c :: later ∧ c.Files (called voc before) key d ∧
    ∀ between c' rest, later = between ++ c' :: rest → c' ≠ .clear ∧
      ∀ d', ¬ c'.Files (called voc (before ++ c :: between)) key d'

/-! ## One call -/

theorem register_fst (g : Registry) (r : Reference) (d : Json) :
    (g.register r d).1 = (g.checked r.toLocator d).map fun _ => () := by
  unfold register
  simp only
  split
  · rename_i cause hc
    rw [hc]
    rfl
  · rename_i document hc
    rw [hc]
    split <;> rfl

theorem registerRoot_eq (hn : rootLocator d = .ok n) :
    g.registerRoot d = ((g.register n d).1.map fun _ => n, (g.register n d).2) := by
  simp only [registerRoot, hn]

/-- The locator of a root document is stable. -/
theorem isStable_of_rootLocator (h : rootLocator d = .ok n) : n.IsStable := by
  unfold rootLocator at h
  cases hid : d.get? "id" with
  | none =>
    rw [hid] at h
    cases h
    exact Reference.isStable_empty
  | some id =>
    rw [hid] at h
    obtain ⟨r, hr, rfl⟩ := Uri.map_eq_ok_iff.1 h
    split
    · refine Reference.isStable_toLocator ?_
      unfold Reference.ofJson at hr
      split at hr
      · exact Reference.isNormal_of_parse hr
      · cases hr
        exact Reference.isNormal_empty
    · exact Reference.isStable_empty

theorem registerRoot_keeps (g : Registry) (d : Json) :
    (g.registerRoot d).2.fetchers = g.fetchers ∧
      (g.registerRoot d).2.vocabulary = g.vocabulary := by
  cases hn : rootLocator d with
  | error cause => simp only [registerRoot, hn, and_self]
  | ok n =>
    rw [registerRoot_eq hn]
    exact register_keeps g n d

theorem Call.run_keeps (c : Call) (g : Registry) :
    (c.run g).fetchers = g.fetchers ∧ (c.run g).vocabulary = g.vocabulary := by
  cases c with
  | register r d => exact register_keeps g r d
  | registerRoot d => exact registerRoot_keeps g d
  | getSchema r => exact document_keeps g r.toLocator
  | isCached r => exact ⟨rfl, rfl⟩
  | clear => exact ⟨rfl, rfl⟩

/-- Whether a registration succeeds depends on the vocabulary only. -/
theorem Call.registered?_congr (h : g'.vocabulary = g.vocabulary) (c : Call) :
    c.registered? g' = c.registered? g := by
  have hregister (r : Reference) (d : Json) : (g'.register r d).1 = (g.register r d).1 := by
    simp only [register_fst, checked, h]
  cases c with
  | register r d => simp only [registered?, hregister]
  | registerRoot d =>
    cases hn : rootLocator d with
    | error cause => simp only [registered?, Registry.registerRoot, hn]
    | ok n => simp only [registered?, registerRoot_eq hn, hregister]
  | getSchema r | isCached r | clear => rfl

/-- A registration that succeeds is one of a document for a locator. -/
theorem Call.register_of_registered? (h : c.registered? g = some (n, d)) :
    ∃ r, r.toLocator = n ∧ c.run g = (g.register r d).2 ∧ (g.register r d).1 = .ok () := by
  cases c with
  | register r d' =>
    obtain ⟨_, hr, he⟩ := Option.map_eq_some_iff.1 h
    cases he
    exact ⟨r, rfl, rfl, Uri.toOption_eq_some.1 hr⟩
  | registerRoot d' =>
    obtain ⟨q, hr, he⟩ := Option.map_eq_some_iff.1 h
    cases he
    obtain ⟨hn, hregister⟩ := ok_of_registerRoot (Uri.toOption_eq_some.1 hr)
    refine ⟨n, (isStable_of_rootLocator hn).toLocator, ?_, hregister⟩
    rw [run, registerRoot_eq hn]
  | getSchema r | isCached r | clear => cases h

/-- **What a registration that succeeds writes.** -/
theorem kept?_run_of_registered? (h : c.registered? g = some (n, d)) (l : Reference) :
    (c.run g).kept? l =
      if l.locator ∈ (locatorsOf n d).map Reference.locator then some d else g.kept? l := by
  obtain ⟨r, rfl, hrun, hregister⟩ := Call.register_of_registered? h
  rw [hrun, kept?, cached?_register, filedFor_of_accepts (accepts_of_register hregister)]
  split <;> rfl

/-- A registration that fails changes nothing. -/
theorem register_of_error (h : (g.register r d).1 = .error cause) : (g.register r d).2 = g := by
  rw [register_eq, filedFor, if_neg]
  · rfl
  · intro ha
    rw [register_fst, checked, if_pos ha] at h
    cases h

/-- **Look-ups and registrations that fail leave the map as it is.** -/
theorem kept?_run_of_isIdle (hg : g.fetchers = []) (h : c.IsIdle g) (l : Reference) :
    (c.run g).kept? l = g.kept? l := by
  obtain ⟨hclear, hnone⟩ := h
  cases c with
  | register r d =>
    cases hr : (g.register r d).1 with
    | error cause => rw [Call.run, register_of_error hr]
    | ok _ => simp [Call.registered?, hr, Except.toOption] at hnone
  | registerRoot d =>
    cases hn : rootLocator d with
    | error cause => simp only [Call.run, registerRoot, hn]
    | ok n =>
      cases hr : (g.register n d).1 with
      | error cause => rw [Call.run, registerRoot_eq hn, register_of_error hr]
      | ok _ =>
        simp [Call.registered?, registerRoot_eq hn, hr, Except.toOption, Except.map] at hnone
  | getSchema r => exact ((Replays.refl hg).getSchema r).2.kept l
  | isCached r => rfl
  | clear => exact absurd rfl hclear

/-- **What one call does to the map.** -/
theorem kept?_run_eq_some_iff (hg : g.fetchers = []) (c : Call) (l : Reference) :
    (c.run g).kept? l = some d ↔ c.Files g l.locator d ∨
      c ≠ .clear ∧ (∀ d', ¬ c.Files g l.locator d') ∧ g.kept? l = some d := by
  by_cases hclear : c = .clear
  · subst hclear
    refine iff_of_false nofun ?_
    rintro (⟨n, h, -⟩ | h)
    · cases h
    · exact h.1 rfl
  cases hreg : c.registered? g with
  | none =>
    have hfiles (d' : Json) : ¬ c.Files g l.locator d' := fun ⟨n, h, _⟩ => by
      rw [hreg] at h
      cases h
    rw [kept?_run_of_isIdle hg ⟨hclear, hreg⟩]
    exact ⟨fun h => .inr ⟨hclear, hfiles, h⟩, fun h => (h.resolve_left (hfiles d)).2.2⟩
  | some entry =>
    obtain ⟨n, d'⟩ := entry
    rw [kept?_run_of_registered? hreg]
    have hfiles (d'' : Json) : c.Files g l.locator d'' ↔
        d' = d'' ∧ l.locator ∈ (locatorsOf n d').map Reference.locator := by
      constructor
      · rintro ⟨n', h, hl⟩
        rw [hreg] at h
        cases h
        exact ⟨rfl, hl⟩
      · rintro ⟨rfl, hl⟩
        exact ⟨n, hreg, hl⟩
    simp only [hfiles]
    split
    · rename_i hl
      simp [hl]
    · rename_i hl
      simp [hl, hclear]

/-! ## Runs of calls -/

theorem called_concat (cs : List Call) (c : Call) :
    called voc (cs ++ [c]) = c.run (called voc cs) := by
  rw [called, calls, List.foldl_append]
  rfl

theorem called_append (cs cs' : List Call) :
    called voc (cs ++ cs') = (called voc cs).calls cs' := by
  rw [called, calls, List.foldl_append]
  rfl

theorem calls_keeps (g : Registry) (cs : List Call) :
    (g.calls cs).fetchers = g.fetchers ∧ (g.calls cs).vocabulary = g.vocabulary := by
  induction cs generalizing g with
  | nil => exact ⟨rfl, rfl⟩
  | cons c rest ih =>
    obtain ⟨hf, hv⟩ := c.run_keeps g
    exact ⟨(ih _).1.trans hf, (ih _).2.trans hv⟩

theorem lastFiled_concat_iff (cs : List Call) (c : Call) :
    LastFiled voc (cs ++ [c]) key d ↔ c.Files (called voc cs) key d ∨
      c ≠ .clear ∧ (∀ d', ¬ c.Files (called voc cs) key d') ∧ LastFiled voc cs key d := by
  constructor
  · rintro ⟨before, c₀, later, he, hfiles, hlater⟩
    rcases List.eq_nil_or_concat later with rfl | ⟨later, last, rfl⟩
    · obtain ⟨rfl, hc⟩ := List.append_inj' he rfl
      cases hc
      exact .inl hfiles
    · rw [List.concat_eq_append, ← List.cons_append, ← List.append_assoc] at he
      obtain ⟨rfl, hc⟩ := List.append_inj' he rfl
      cases hc
      obtain ⟨hclear, hnot⟩ := hlater later c [] (by simp)
      refine .inr ⟨hclear, hnot, before, c₀, later, rfl, hfiles, fun between c' rest hl => ?_⟩
      exact hlater between c' (rest ++ [c]) (by simp [hl])
  · rintro (hfiles | ⟨hclear, hnot, before, c₀, later, rfl, hfiles, hlater⟩)
    · exact ⟨cs, c, [], rfl, hfiles, fun between c' rest hl => by simp at hl⟩
    · refine ⟨before, c₀, later ++ [c], by simp, hfiles, fun between c' rest hl => ?_⟩
      rcases List.eq_nil_or_concat rest with rfl | ⟨rest, last, rfl⟩
      · obtain ⟨rfl, hc⟩ := List.append_inj' hl rfl
        cases hc
        exact ⟨hclear, hnot⟩
      · rw [List.concat_eq_append, ← List.cons_append, ← List.append_assoc] at hl
        exact hlater between c' rest (List.append_inj' hl rfl).1

/-- **What a run of calls does to the map.** -/
theorem kept?_called_eq_some_iff (cs : List Call) (l : Reference) :
    (called voc cs).kept? l = some d ↔ LastFiled voc cs l.locator d := by
  induction cs using List.reverseRecOn with
  | nil =>
    refine iff_of_false nofun ?_
    rintro ⟨before, c, later, he, -⟩
    simp at he
  | append_singleton cs c ih =>
    rw [called_concat, kept?_run_eq_some_iff (calls_keeps _ cs).1, lastFiled_concat_iff, ih]

/-! ## Failures -/

/-- The failure to fetch a document where there are no fetchers. -/
def unfetched (locator : Reference) : ResolveError :=
  .fetch locator.toChars
    (match locator.scheme with
    | none => .invalidLocator locator.toChars .relative
    | some scheme => .unsupportedScheme scheme)

theorem load_of_offline (hg : g.fetchers = []) (locator : Reference) :
    g.load locator = (.error (unfetched locator), false) := by
  unfold load unfetched
  rw [hg]
  cases locator.scheme <;> rfl

/-- A failure that is kept is that of a look-up. -/
theorem cached?_run_eq_error (hg : g.fetchers = [])
    (h : (c.run g).cached? l = some (.error cause)) :
    g.cached? l = some (.error cause) ∨
      ∃ r, c = .getSchema r ∧ l.locator = r.toLocator.locator ∧ cause = unfetched r.toLocator := by
  cases c with
  | register r d =>
    rw [Call.run, cached?_register] at h
    split at h
    · cases h
    · exact .inl h
  | registerRoot d =>
    cases hn : rootLocator d with
    | error e =>
      simp only [Call.run, registerRoot, hn] at h
      exact .inl h
    | ok n =>
      rw [Call.run, registerRoot_eq hn, cached?_register] at h
      split at h
      · cases h
      · exact .inl h
  | getSchema r =>
    rcases cached?_document_eq_error h with h | ⟨hl, hd⟩
    · exact .inl h
    cases hc : g.cached? r.toLocator with
    | some outcome =>
      rw [document_of_cached? hc] at hd
      rw [cached?_congr g hl, hc, show outcome = .error cause from hd]
      exact .inl rfl
    | none =>
      rw [document_of_not_cached hc, load_of_offline hg] at hd
      exact .inr ⟨r, rfl, hl, (Except.error.inj hd).symm⟩
  | isCached r => exact .inl h
  | clear => cases h

theorem cached?_called_eq_error {cs : List Call}
    (h : (called voc cs).cached? l = some (.error cause)) :
    ∃ r, .getSchema r ∈ cs ∧ l.locator = r.toLocator.locator ∧ cause = unfetched r.toLocator := by
  induction cs using List.reverseRecOn with
  | nil => simp [called, calls, fresh, cached?] at h
  | append_singleton cs c ih =>
    rw [called_concat] at h
    rcases cached?_run_eq_error (calls_keeps _ cs).1 h with h | ⟨r, rfl, hr⟩
    · obtain ⟨r, hm, hr⟩ := ih h
      exact ⟨r, List.mem_append_left _ hm, hr⟩
    · exact ⟨r, by simp, hr⟩

/-- A document that is kept answers the references to its locator. -/
theorem getSchema_of_kept? (h : g.kept? r.toLocator = some d) : (g.getSchema r).1 = nodeOf r d := by
  rw [getSchema_fst, document_of_cached? (cached?_of_kept? h)]
  rfl

/-- Where no document is kept, a look-up fails, on its own account or on that of one of a locator
with the same text. -/
theorem exists_failure_of_kept?_eq_none {cs : List Call}
    (h : (called voc cs).kept? r.toLocator = none) :
    ∃ r', (r' = r ∨ .getSchema r' ∈ cs) ∧ r'.toLocator.locator = r.toLocator.locator ∧
      ((called voc cs).getSchema r).1 = .error (unfetched r'.toLocator) := by
  rw [getSchema_fst]
  cases hc : (called voc cs).cached? r.toLocator with
  | none =>
    rw [document_of_not_cached hc, load_of_offline (calls_keeps _ cs).1]
    exact ⟨r, .inl rfl, rfl, rfl⟩
  | some outcome =>
    rw [document_of_cached? hc]
    cases outcome with
    | ok d =>
      rw [kept?, hc] at h
      cases h
    | error cause =>
      obtain ⟨r', hm, hl, rfl⟩ := cached?_called_eq_error hc
      exact ⟨r', .inr hm, hl.symm, rfl⟩

/-- **When a look-up gives a node**: exactly if the document that was last written has one. -/
theorem getSchema_called_eq_ok_iff {cs : List Call} {s : SchemaNode} :
    ((called voc cs).getSchema r).1 = .ok s ↔ ∃ d pointer,
      LastFiled voc cs r.toLocator.locator d ∧ r.fragment.locate? d = some pointer ∧
        s = .of r.toLocator d pointer := by
  simp only [← kept?_called_eq_some_iff]
  cases hk : (called voc cs).kept? r.toLocator with
  | some d =>
    simp only [getSchema_of_kept? hk, nodeOf, Option.some.injEq, exists_and_left, exists_eq_left']
    cases r.fragment.locate? d with
    | none => simp
    | some pointer => simp [eq_comm]
  | none =>
    obtain ⟨r', -, -, hs⟩ := exists_failure_of_kept?_eq_none hk
    simp [hs]

/-! ## Idle calls -/

/-- Two registries without fetchers that keep the same documents and accept the same ones. -/
structure Agrees (g g' : Registry) : Prop extends g.Replays g' where
  vocabulary : g'.vocabulary = g.vocabulary

/-- A call keeps registries in agreement. -/
theorem Agrees.run (h : g.Agrees g') (c : Call) : (c.run g).Agrees (c.run g') where
  offline := (c.run_keeps g).1.trans h.offline
  fetchers := (c.run_keeps g').1.trans (h.fetchers.trans (c.run_keeps g).1.symm)
  vocabulary := (c.run_keeps g').2.trans (h.vocabulary.trans (c.run_keeps g).2.symm)
  kept l := by
    refine Option.ext fun d => ?_
    rw [kept?_run_eq_some_iff h.offline, kept?_run_eq_some_iff (h.fetchers.trans h.offline), h.kept]
    simp only [Call.Files, Call.registered?_congr h.vocabulary]

theorem Agrees.calls (h : g.Agrees g') (cs : List Call) : (g.calls cs).Agrees (g'.calls cs) := by
  induction cs generalizing g g' with
  | nil => exact h
  | cons c rest ih => exact ih (h.run c)

/-- An idle call changes no document that is kept later. -/
theorem kept?_called_insert {before : List Call} (h : c.IsIdle (called voc before))
    (later : List Call) (l : Reference) :
    (called voc (before ++ c :: later)).kept? l = (called voc (before ++ later)).kept? l := by
  have hoffline : (called voc before).fetchers = [] := (calls_keeps _ before).1
  have hagrees : (called voc before).Agrees (c.run (called voc before)) :=
    ⟨⟨hoffline, (c.run_keeps _).1, kept?_run_of_isIdle hoffline h⟩, (c.run_keeps _).2⟩
  rw [called_append, called_append]
  exact (hagrees.calls later).kept l

theorem toChars_congr (hn : n.IsStable) (hl : l.IsStable) (h : n.locator = l.locator) :
    n.toChars = l.toChars := by
  rw [hn.locator, hl.locator] at h
  have hempty : n.uri = .empty ↔ l.uri = .empty := by
    constructor
    · intro he
      rw [he] at h
      exact Uri.eq_empty_of_toChars_eq_nil h.symm
    · intro he
      rw [he] at h
      exact Uri.eq_empty_of_toChars_eq_nil h
  simp only [Reference.toChars, hempty, h]

/-- The failure of a locator is given by its text and its scheme. -/
theorem unfetched_congr (hn : n.IsStable) (hl : l.IsStable) (h : n.locator = l.locator)
    (hs : n.scheme = l.scheme) : unfetched n = unfetched l := by
  rw [unfetched, unfetched, toChars_congr hn hl h, hs]

/-- Some reference that is looked up has a locator with the same text and another scheme. -/
def HasNamesake (cs : List Call) (r : Reference) : Prop :=
  ∃ r', .getSchema r' ∈ cs ∧ r'.toLocator.locator = r.toLocator.locator ∧
    r'.toLocator.scheme ≠ r.toLocator.scheme

/-- A look-up without a document fails on its own account, unless it has a namesake. -/
theorem getSchema_called_of_kept?_eq_none {cs : List Call}
    (hk : (called voc cs).kept? r.toLocator = none) (hr : r.IsNormal)
    (hrs : ∀ r', .getSchema r' ∈ cs → r'.IsNormal) :
    ∃ cause, ((called voc cs).getSchema r).1 = .error (.fetch r.toLocator.toChars cause) ∧
      (¬ HasNamesake cs r → .fetch r.toLocator.toChars cause = unfetched r.toLocator) := by
  obtain ⟨r', hr', hl, hs⟩ := exists_failure_of_kept?_eq_none hk
  have hstable := Reference.isStable_toLocator hr
  have hstable' : r'.toLocator.IsStable := by
    rcases hr' with rfl | hm
    · exact hstable
    · exact Reference.isStable_toLocator (hrs r' hm)
  rw [hs, ← toChars_congr hstable' hstable hl]
  refine ⟨_, rfl, fun hn => unfetched_congr hstable' hstable hl ?_⟩
  rcases hr' with rfl | hm
  · rfl
  · by_contra hscheme
    exact hn ⟨r', hm, hl, hscheme⟩

/-- **An idle call changes no answer**, but for the failures of look-ups that have a namesake. -/
theorem getSchema_called_insert {before later : List Call} (h : c.IsIdle (called voc before))
    (hr : r.IsNormal) (hrs : ∀ r', .getSchema r' ∈ before ++ c :: later → r'.IsNormal) :
    ((called voc (before ++ c :: later)).getSchema r).1 =
        ((called voc (before ++ later)).getSchema r).1 ∨
      (∃ cause cause',
        ((called voc (before ++ c :: later)).getSchema r).1 =
          .error (.fetch r.toLocator.toChars cause) ∧
        ((called voc (before ++ later)).getSchema r).1 =
          .error (.fetch r.toLocator.toChars cause')) ∧
        HasNamesake (before ++ c :: later) r := by
  have hsub {c' : Call} (hm : c' ∈ before ++ later) : c' ∈ before ++ c :: later :=
    ((List.sublist_cons_self c later).append_left before).mem hm
  have hkept := kept?_called_insert h later r.toLocator
  cases hk : (called voc (before ++ later)).kept? r.toLocator with
  | some d =>
    rw [hk] at hkept
    rw [getSchema_of_kept? hk, getSchema_of_kept? hkept]
    exact .inl rfl
  | none =>
    rw [hk] at hkept
    obtain ⟨cause, hs, hself⟩ := getSchema_called_of_kept?_eq_none hkept hr hrs
    obtain ⟨cause', hs', hself'⟩ :=
      getSchema_called_of_kept?_eq_none hk hr fun r' hm => hrs r' (hsub hm)
    by_cases hn : HasNamesake (before ++ c :: later) r
    · exact .inr ⟨⟨cause, cause', hs, hs'⟩, hn⟩
    · have hn' : ¬ HasNamesake (before ++ later) r := fun ⟨r', hm, hr'⟩ => hn ⟨r', hsub hm, hr'⟩
      rw [hs, hs', hself hn, hself' hn']
      exact .inl rfl

/-- The locator that a root document is registered for leads to its root. -/
theorem getSchema_registerRoot {q : Reference} (h : (g.registerRoot d).1 = .ok q) :
    ((g.registerRoot d).2.getSchema q).1 = .ok (.of q d []) := by
  obtain ⟨hn, hregister⟩ := ok_of_registerRoot h
  have hstable := isStable_of_rootLocator hn
  have hc := cached?_register_self hregister
  rw [hstable.toLocator] at hc
  rw [registerRoot_eq hn, getSchema_of_isStable hstable hc]

/-- **Which calls the answers of a registry without fetchers depend on.** A reference is answered
with a node exactly if the last registration that wrote its locator wrote a document that holds
something at its fragment. Look-ups and registrations that fail change no answer; where there is no
document, the failure may be the one that is kept from the look-up of a namesake. The locator that
a root document is registered for leads to its root. -/
theorem answers_of_calls (voc : Vocabulary) (cs : List Call) (r : Reference) :
    (∀ s, ((called voc cs).getSchema r).1 = .ok s ↔ ∃ d pointer,
      LastFiled voc cs r.toLocator.locator d ∧ r.fragment.locate? d = some pointer ∧
        s = .of r.toLocator d pointer) ∧
    (∀ before c later, cs = before ++ c :: later → c.IsIdle (called voc before) →
      r.IsNormal → (∀ r', .getSchema r' ∈ cs → r'.IsNormal) →
      ((called voc cs).getSchema r).1 = ((called voc (before ++ later)).getSchema r).1 ∨
        (∃ cause cause',
          ((called voc cs).getSchema r).1 = .error (.fetch r.toLocator.toChars cause) ∧
          ((called voc (before ++ later)).getSchema r).1 =
            .error (.fetch r.toLocator.toChars cause')) ∧
          HasNamesake cs r) ∧
    ∀ d q, ((called voc cs).registerRoot d).1 = .ok q →
      (((called voc cs).registerRoot d).2.getSchema q).1 = .ok (.of q d []) := by
  refine ⟨fun s => getSchema_called_eq_ok_iff, fun before c later he hidle hr hrs => ?_,
    fun d q => getSchema_registerRoot⟩
  subst he
  exact getSchema_called_insert hidle hr hrs

/-- A reference with the scheme `a`. -/
def schemed : Reference :=
  ⟨⟨some ['a'], none, ['b'], none, none⟩⟩

/-- A reference without scheme, with the same text. -/
def schemeless : Reference :=
  ⟨⟨none, none, "a:b".toList, none, none⟩⟩

/-- **A look-up can change a failure**: `./a:b` is answered with the failure of `a:b`. -/
theorem failure_of_namesake :
    Reference.parse "a:b" = .ok schemed ∧ Reference.parse "./a:b" = .ok schemeless ∧
      ((called .standard [.getSchema schemed]).getSchema schemeless).1 ≠
        ((called .standard []).getSchema schemeless).1 := by
  refine ⟨by cbv, by cbv, fun he => ?_⟩
  have hkept : ((called .standard [.getSchema schemed]).getSchema schemeless).1 =
      .error (.fetch "a:b".toList (.unsupportedScheme ['a'])) := by
    cbv
  have halone : ((called .standard []).getSchema schemeless).1 =
      .error (.fetch "a:b".toList (.invalidLocator "a:b".toList .relative)) := by
    cbv
  rw [hkept, halone] at he
  cases he

end Registry

end JsonSchema
