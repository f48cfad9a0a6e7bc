import JsonSchema.Proofs.Session
import JsonSchema.Vocabulary.Standard
import Mathlib

/-!
# Look-ups and their order

What a registry has been asked for decides what it answers later, in two ways. A document that is
fetched is kept for the locator that its `id` names as well, and a failure is kept as a document
is. Neither replaces what is there.

* `Registry.Covers`: looking up one locator answers for another one.
* `Registry.cached?_document_of_ne`: what one look-up changes for the other locators.
* `Registry.exists_lookup`: what a run of look-ups brought about, one of them did.
* `Registry.second_locator_answers_iff`: when the locator that a fetched document names is
  answered with a document.
* `Registry.lookups_commute_iff`: when two look-ups may be exchanged.
-/

namespace JsonSchema

namespace Registry

variable {g g' : Registry} {fetchers : List (List Char × Fetcher)} {voc : Vocabulary}
  {r l a b locator : Reference} {outcome : Outcome} {cause : ResolveError}

/-! ## One look-up -/

/-- Looking up the locator `a`, of which nothing is kept, brings an outcome for the locator `b` as
well: the two are one, or the document that is loaded for `a` names `b`. -/
def Covers (g : Registry) (a b : Reference) : Prop :=
  b.locator = a.locator ∨ ∃ document second, (g.load a).1 = .ok document ∧
    a.secondLocator? document = some second ∧ b.locator = second.locator

/-- What is kept for a locator after another one was looked up, of which nothing was kept. -/
theorem cached?_document_of_ne (hc : g.cached? locator = none) (hne : r.locator ≠ locator.locator) :
    (g.Covers locator r → (g.document locator).2.cached? r =
      some ((g.cached? r).getD (g.load locator).1)) ∧
    (¬ g.Covers locator r → (g.document locator).2.cached? r = g.cached? r) := by
  have hput (requests : List Reference) :
      (({ g with requests } : Registry).put locator (g.load locator).1).cached? r =
        g.cached? r := by
    rw [cached?_put, if_neg hne]
    rfl
  rw [document_of_not_cached hc]
  unfold Covers
  cases ho : (g.load locator).1 with
  | error cause =>
    rw [ho] at hput
    simp [hne, putAlias, hput]
  | ok document =>
    rw [ho] at hput
    cases hs : locator.secondLocator? document with
    | none => simp [hne, putAlias, hs, hput]
    | some second =>
      simp only [putAlias, hs, cached?_putNew, hput]
      refine ⟨fun hcovers => ?_, fun hcovers => ?_⟩
      · obtain ⟨_, _, hd, hs', hr⟩ := hcovers.resolve_left hne
        cases hd
        rw [hs] at hs'
        cases hs'
        exact if_pos hr
      · exact if_neg fun hr => hcovers (.inr ⟨_, _, rfl, hs, hr⟩)

/-- A look-up changes the cache, and the locators that were asked for. -/
theorem document_snd_of_not_cached (hc : g.cached? locator = none) :
    ∃ cache, (g.document locator).2 = { g with
      cache, requests := g.requests ++ if (g.load locator).2 then [locator] else [] } := by
  rw [document_of_not_cached hc]
  generalize (if (g.load locator).2 then [locator] else []) = asked
  unfold putAlias putNew
  split
  · split
    · split <;> exact ⟨_, rfl⟩
    · exact ⟨_, rfl⟩
  · exact ⟨_, rfl⟩

/-- A look-up asks for its own locator only, and only if nothing is kept for it. -/
theorem mem_requests_document (hl : l ∈ (g.document locator).2.requests) :
    l ∈ g.requests ∨ l = locator ∧ g.cached? locator = none := by
  cases hc : g.cached? locator with
  | some outcome =>
    rw [document_of_cached? hc] at hl
    exact .inl hl
  | none =>
    obtain ⟨cache, hg⟩ := document_snd_of_not_cached hc
    rw [hg] at hl
    rcases List.mem_append.1 hl with hl | hl
    · exact .inl hl
    · split at hl
      · exact .inr ⟨List.mem_singleton.1 hl, rfl⟩
      · cases hl

/-- A failure is kept for a locator only once this locator has been looked up. -/
theorem cached?_document_eq_error (h : (g.document locator).2.cached? r = some (.error cause)) :
    g.cached? r = some (.error cause) ∨
      r.locator = locator.locator ∧ (g.document locator).1 = .error cause := by
  cases hc : g.cached? locator with
  | some outcome =>
    rw [document_of_cached? hc] at h
    exact .inl h
  | none =>
    by_cases hr : r.locator = locator.locator
    · rw [cached?_congr _ hr, cached?_document] at h
      exact .inr ⟨hr, Option.some.inj h⟩
    · obtain ⟨hcovers, hother⟩ := cached?_document_of_ne hc hr
      by_cases hcov : g.Covers locator r
      · obtain ⟨document, _, hd, -⟩ := hcov.resolve_left hr
        rw [hcovers hcov, hd] at h
        cases hk : g.cached? r with
        | none => rw [hk] at h; cases h
        | some kept => rw [hk] at h; exact .inl h
      · rw [hother hcov] at h
        exact .inl h

/-! ## Runs of look-ups -/

/-- What a registry has become that kept nothing and was asked for some references. -/
def asked (fetchers : List (List Char × Fetcher)) (voc : Vocabulary) (rs : List Reference) :
    Registry :=
  (fresh fetchers voc).after (rs.map .getSchema)

theorem asked_append (rs rs' : List Reference) :
    asked fetchers voc (rs ++ rs') = (asked fetchers voc rs).after (rs'.map .getSchema) := by
  rw [asked, List.map_append, after_append]
  rfl

theorem asked_concat (rs : List Reference) (r : Reference) :
    asked fetchers voc (rs ++ [r]) = ((asked fetchers voc rs).getSchema r).2 :=
  asked_append rs [r]

theorem writtenBy_lookups (g : Registry) (rs : List Reference) :
    g.writtenBy (rs.map .getSchema) = [] := by
  induction rs generalizing g with
  | nil => rfl
  | cons r rest ih => exact ih _

/-- Look-ups leave what is kept as it is. -/
theorem advances_asked (fetchers : List (List Char × Fetcher)) (voc : Vocabulary)
    (rs rs' : List Reference) :
    Advances [] (asked fetchers voc rs) (asked fetchers voc (rs ++ rs')) := by
  rw [asked_append, ← writtenBy_lookups (asked fetchers voc rs) rs']
  exact advances_after _ _

/-- Something is kept for every locator that a fetcher was asked for. -/
theorem isSome_cached?_of_mem_requests {rs : List Reference}
    (hl : l ∈ (asked fetchers voc rs).requests) : ((asked fetchers voc rs).cached? l).isSome :=
  ((advances_after (fresh fetchers voc) (rs.map .getSchema)).nodup_requests List.nodup_nil
    (by simp [fresh])).2 l hl

/-- **What a run of look-ups brought about, one of them did.** -/
theorem exists_lookup {P : Registry → Prop} (hstart : ¬ P (fresh fetchers voc))
    {rs : List Reference} (h : P (asked fetchers voc rs)) :
    ∃ earlier r later, rs = earlier ++ r :: later ∧ ¬ P (asked fetchers voc earlier) ∧
      P (asked fetchers voc (earlier ++ [r])) := by
  induction rs using List.reverseRecOn with
  | nil => exact absurd h hstart
  | append_singleton rest r ih =>
    by_cases hrest : P (asked fetchers voc rest)
    · obtain ⟨earlier, r', later, rfl, hbefore, hthen⟩ := ih hrest
      exact ⟨earlier, r', later ++ [r], by simp, hbefore, hthen⟩
    · exact ⟨rest, r, [], rfl, hrest, h⟩

/-- A locator that was fetched was looked up when nothing was kept for it. -/
theorem exists_fetch {rs : List Reference} (hl : l ∈ (asked fetchers voc rs).requests) :
    ∃ earlier r later, rs = earlier ++ r :: later ∧ r.toLocator = l ∧
      (asked fetchers voc earlier).cached? l = none := by
  obtain ⟨earlier, r, later, he, hbefore, hthen⟩ :=
    exists_lookup (P := fun g => l ∈ g.requests) (by simp [fresh]) hl
  rw [asked_concat] at hthen
  obtain ⟨hr, hc⟩ := (mem_requests_document hthen).resolve_left hbefore
  exact ⟨earlier, r, later, he, hr.symm, hr ▸ hc⟩

/-- A failure that is kept for a locator is what looking it up gave. -/
theorem exists_failure {rs : List Reference}
    (h : (asked fetchers voc rs).cached? l = some (.error cause)) :
    ∃ earlier r later, rs = earlier ++ r :: later ∧ l.locator = r.toLocator.locator ∧
      ((asked fetchers voc earlier).document r.toLocator).1 = .error cause := by
  obtain ⟨earlier, r, later, he, hbefore, hthen⟩ :=
    exists_lookup (P := fun g => g.cached? l = some (.error cause))
      (by simp [fresh, cached?]) h
  rw [asked_concat] at hthen
  obtain ⟨hr, hd⟩ := (cached?_document_eq_error hthen).resolve_left hbefore
  exact ⟨earlier, r, later, he, hr, hd⟩

/-! ## Second locators -/

/-- The locator `second` was looked up in vain before the locator `first` was fetched. -/
def FailedBefore (fetchers : List (List Char × Fetcher)) (voc : Vocabulary) (rs : List Reference)
    (second first : Reference) : Prop :=
  ∃ earlier r later cause, rs = earlier ++ r :: later ∧
    second.locator = r.toLocator.locator ∧
    ((asked fetchers voc earlier).document r.toLocator).1 = .error cause ∧
    first ∉ (asked fetchers voc earlier).requests

/-- **When the locator that a fetched document names is answered with a document**: exactly if it
was not looked up in vain before the document was fetched. -/
theorem second_locator_answers_iff {rs : List Reference} {first second : Reference}
    {document : Json} (hfirst : first ∈ (asked fetchers voc rs).requests)
    (hkept : (asked fetchers voc rs).cached? first = some (.ok document))
    (hsecond : first.secondLocator? document = some second) :
    (∃ document', ((asked fetchers voc rs).document second).1 = .ok document') ↔
      ¬ FailedBefore fetchers voc rs second first := by
  constructor
  · rintro ⟨document', hd⟩ ⟨earlier, r, later, cause, rfl, hr, hfail, -⟩
    -- The failure is kept from its look-up on.
    have hc := cached?_document (asked fetchers voc earlier) r.toLocator
    have hstep : asked fetchers voc (earlier ++ [r]) =
        ((asked fetchers voc earlier).document r.toLocator).2 := asked_concat earlier r
    rw [hfail, ← cached?_congr _ hr, ← hstep] at hc
    have hlater := (advances_asked fetchers voc (earlier ++ [r]) later).keeps second (by simp)
      (Option.isSome_of_eq_some hc)
    rw [List.append_assoc, List.singleton_append] at hlater
    rw [document_of_cached? (hlater.trans hc)] at hd
    cases hd
  · intro hbefore
    obtain ⟨earlier, r, later, rfl, rfl, hc⟩ := exists_fetch hfirst
    set g := asked fetchers voc earlier with hg
    have hstep : asked fetchers voc (earlier ++ [r]) = (g.document r.toLocator).2 :=
      asked_concat earlier r
    have hlater := advances_asked fetchers voc (earlier ++ [r]) later
    rw [List.append_assoc, List.singleton_append, hstep] at hlater
    -- What was loaded for the first locator is the document.
    have hload : (g.load r.toLocator).1 = .ok document := by
      have hd := cached?_document g r.toLocator
      rw [hlater.keeps _ (by simp) (Option.isSome_of_eq_some hd), hd] at hkept
      rw [← Option.some.inj hkept, document_of_not_cached hc]
    obtain ⟨-, -, -, -, -, -, hne⟩ := secondLocator?_eq_some hsecond
    have hcovers : g.Covers r.toLocator second := .inr ⟨document, second, hload, hsecond, rfl⟩
    have hnow := (cached?_document_of_ne hc hne).1 hcovers
    have hend := hlater.keeps second (by simp) (Option.isSome_of_eq_some hnow)
    rw [hnow, hload] at hend
    rw [document_of_cached? hend]
    cases hk : g.cached? second with
    | none => exact ⟨document, rfl⟩
    | some outcome =>
      cases outcome with
      | ok document' => exact ⟨document', rfl⟩
      | error cause =>
        obtain ⟨earlier', r', later', he, hr', hfail⟩ := exists_failure hk
        refine absurd ⟨earlier', r', later' ++ r :: later, cause, by rw [he]; simp, hr', hfail,
          fun hm => ?_⟩ hbefore
        have hstill := (advances_asked fetchers voc earlier' (r' :: later')).stays _
          (isSome_cached?_of_mem_requests hm)
        rw [← he, ← hg, hc] at hstill
        cases hstill

/-- The locator with which a document was fetched. -/
def siteLocator : Reference :=
  ⟨⟨some "m".toList, none, "a".toList, none, none⟩⟩

/-- The locator that the document names. -/
def nameLocator : Reference :=
  ⟨⟨some "m".toList, none, "b".toList, none, none⟩⟩

/-- The document. -/
def named : Json :=
  .obj [("id", .str "m:b")]

/-- The fetchers that have this document, and none for the locator that it names. -/
def site : List (List Char × Fetcher) :=
  [("m".toList, .memory [("m:a".toList,
    "\x7b\"id\":\"m:b\"\x7d".toList.map fun c => c.toNat.toUInt8)])]

theorem second_locator_answers_of_site_first :
    ¬ FailedBefore site .standard [siteLocator, nameLocator] nameLocator siteLocator := by
  have hfirst : (asked site .standard [siteLocator, nameLocator]).requests = [siteLocator] := by
    cbv
  have hkept : (asked site .standard [siteLocator, nameLocator]).cached? siteLocator =
      some (.ok named) := by
    cbv
  have hsecond : siteLocator.secondLocator? named = some nameLocator := by cbv
  have hanswer : ((asked site .standard [siteLocator, nameLocator]).document nameLocator).1 =
      .ok named := by
    cbv
  exact (second_locator_answers_iff (hfirst ▸ List.mem_singleton_self _) hkept hsecond).1
    ⟨named, hanswer⟩

/-- **A locator that was looked up in vain stays so**, also once a document that names it has been
fetched. -/
theorem second_locator_fails_of_name_first :
    (asked site .standard [nameLocator, siteLocator]).requests = [nameLocator, siteLocator] ∧
      (asked site .standard [nameLocator, siteLocator]).cached? siteLocator = some (.ok named) ∧
      siteLocator.secondLocator? named = some nameLocator ∧
      ∃ cause, ((asked site .standard [nameLocator, siteLocator]).document nameLocator).1 =
        .error cause := by
  refine ⟨by cbv, by cbv, by cbv,
    .fetch nameLocator.toChars (.invalidLocator nameLocator.locator .unknown), ?_⟩
  cbv

/-! ## Two look-ups -/

theorem load_congr (hf : g'.fetchers = g.fetchers) (hv : g'.vocabulary = g.vocabulary)
    (locator : Reference) : g'.load locator = g.load locator := by
  simp only [load, readDocument, checked, hf, hv]

theorem document_keeps (g : Registry) (locator : Reference) :
    (g.document locator).2.fetchers = g.fetchers ∧
      (g.document locator).2.vocabulary = g.vocabulary := by
  cases hc : g.cached? locator with
  | some outcome =>
    rw [document_of_cached? hc]
    exact ⟨rfl, rfl⟩
  | none =>
    obtain ⟨cache, hg⟩ := document_snd_of_not_cached hc
    rw [hg]
    exact ⟨rfl, rfl⟩

theorem getSchema_fresh (fetchers : List (List Char × Fetcher)) (voc : Vocabulary)
    (b : Reference) : ((fresh fetchers voc).getSchema b).1 =
      ((fresh fetchers voc).load b.toLocator).1.bind (nodeOf b) := by
  rw [getSchema_fst, document_of_not_cached rfl]

/-- The second of two look-ups is answered from the outcome of the first one if this covers it, and
as on its own otherwise. -/
theorem getSchema_getSchema (fetchers : List (List Char × Fetcher)) (voc : Vocabulary)
    (a b : Reference) :
    ((fresh fetchers voc).Covers a.toLocator b.toLocator →
      (((fresh fetchers voc).getSchema a).2.getSchema b).1 =
        ((fresh fetchers voc).load a.toLocator).1.bind (nodeOf b)) ∧
    (¬ (fresh fetchers voc).Covers a.toLocator b.toLocator →
      (((fresh fetchers voc).getSchema a).2.getSchema b).1 =
        ((fresh fetchers voc).getSchema b).1) := by
  set g := fresh fetchers voc with hg
  have hc (r : Reference) : g.cached? r = none := rfl
  have hstep : (g.getSchema a).2 = (g.document a.toLocator).2 := rfl
  rw [hstep, getSchema_fst, getSchema_fresh, ← hg]
  by_cases hsame : b.toLocator.locator = a.toLocator.locator
  · refine ⟨fun _ => ?_, fun hn => absurd (.inl hsame) hn⟩
    have hd := cached?_document g a.toLocator
    rw [← cached?_congr _ hsame] at hd
    rw [document_of_cached? hd, document_of_not_cached (hc _)]
  · obtain ⟨hcovers, hother⟩ := cached?_document_of_ne (hc _) hsame
    refine ⟨fun h => ?_, fun h => ?_⟩
    · rw [document_of_cached? (hcovers h), hc, Option.getD_none]
    · obtain ⟨hf, hv⟩ := document_keeps g a.toLocator
      rw [document_of_not_cached ((hother h).trans (hc _)), load_congr hf hv]

/-- What a look-up shows of a node: its value, the pointer to it and the text of its base. -/
def shown (answer : Except ResolveError SchemaNode) :
    Except ResolveError (Json × List Char × List Char) :=
  answer.map fun n => (n.raw, n.pointer, n.base.canonical)

/-- **When two look-ups may be exchanged**: exactly if each of them shows the same in the document
that is kept for it in the course of the other one, where there is one, as in its own. -/
theorem lookups_commute_iff (fetchers : List (List Char × Fetcher)) (voc : Vocabulary)
    (a b : Reference) :
    let g := fresh fetchers voc
    (shown (g.getSchema a).1 = shown ((g.getSchema b).2.getSchema a).1 ∧
        shown ((g.getSchema a).2.getSchema b).1 = shown (g.getSchema b).1) ↔
      (g.Covers b.toLocator a.toLocator →
        shown (g.getSchema a).1 = shown ((g.load b.toLocator).1.bind (nodeOf a))) ∧
      (g.Covers a.toLocator b.toLocator →
        shown ((g.load a.toLocator).1.bind (nodeOf b)) = shown (g.getSchema b).1) := by
  intro g
  obtain ⟨hab, hab'⟩ := getSchema_getSchema fetchers voc a b
  obtain ⟨hba, hba'⟩ := getSchema_getSchema fetchers voc b a
  refine and_congr ?_ ?_
  · by_cases h : g.Covers b.toLocator a.toLocator
    · rw [hba h]
      exact ⟨fun he _ => he, fun he => he h⟩
    · rw [hba' h]
      exact iff_of_true rfl fun hc => absurd hc h
  · by_cases h : g.Covers a.toLocator b.toLocator
    · rw [hab h]
      exact ⟨fun he _ => he, fun he => he h⟩
    · rw [hab' h]
      exact iff_of_true rfl fun hc => absurd hc h

/-- **Two look-ups that may not be exchanged**: a document names a locator for which there is
none. -/
theorem lookups_differ_site :
    let g := fresh site .standard
    shown ((g.getSchema siteLocator).2.getSchema nameLocator).1 ≠
      shown (g.getSchema nameLocator).1 := by
  intro g he
  have hafter : (shown ((g.getSchema siteLocator).2.getSchema nameLocator).1).isOk = true := by
    cbv
  have halone : (shown (g.getSchema nameLocator).1).isOk = false := by cbv
  rw [he, halone] at hafter
  cases hafter

end Registry

end JsonSchema
