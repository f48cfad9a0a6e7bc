import JsonSchema.Proofs.Lookups
import Mathlib

/-!
# Fetched and registered documents

A document comes to be kept in two ways. Looking up its locator fetches it, keeps it for this
locator, and then for the one that its `id` names if nothing is kept there. Registering it writes
both locators. In a registry that keeps nothing yet, the two ways come to the same.

* `Registry.Serves`: fetchers have a document for a locator.
* `Registry.cached?_getSchema_of_serves`: what is kept after a document was fetched.
* `Registry.answers_alike_of_serves`: fetched and registered documents answer alike from then on.
-/

namespace JsonSchema

namespace Registry

variable {g : Registry} {fetchers : List (List Char × Fetcher)} {voc : Vocabulary}
  {r l locator : Reference} {document : Json}

/-- Fetchers have a document for a locator: one of them is responsible for its scheme and gives
bytes that stand for the document. -/
def Serves (fetchers : List (List Char × Fetcher)) (locator : Reference) (document : Json) :
    Prop :=
  ∃ scheme fetcher bytes, locator.scheme = some scheme ∧ fetchers.lookup scheme = some fetcher ∧
    fetcher.fetch locator = .ok bytes ∧ Json.read bytes = .ok document

/-- The locators of a document that is known by one locator: this one, and the one that its `id`
names. -/
def locatorsOf (locator : Reference) (document : Json) : List Reference :=
  locator :: (locator.secondLocator? document).toList

theorem mem_locatorsOf_iff : l.locator ∈ (locatorsOf locator document).map Reference.locator ↔
    l.locator = locator.locator ∨
      ∃ second, locator.secondLocator? document = some second ∧ l.locator = second.locator := by
  simp [locatorsOf, eq_comm]

theorem filedFor_of_accepts (ha : g.vocabulary.accepts document) (r : Reference) :
    g.filedFor r document = locatorsOf r.toLocator document :=
  if_pos ha

theorem load_of_serves (h : Serves g.fetchers locator document)
    (ha : g.vocabulary.accepts document) : (g.load locator).1 = .ok document := by
  obtain ⟨scheme, fetcher, bytes, hs, hf, hb, hd⟩ := h
  simp only [load, hs, hf, hb, readDocument, hd]
  exact if_pos ha

/-- What is kept after a document was fetched is kept for its locators. -/
theorem cached?_getSchema_of_serves (h : Serves fetchers r.toLocator document)
    (ha : voc.accepts document) (l : Reference) :
    ((fresh fetchers voc).getSchema r).2.cached? l =
      if l.locator ∈ (locatorsOf r.toLocator document).map Reference.locator then
        some (.ok document)
      else none := by
  set g := fresh fetchers voc with hg
  have hload : (g.load r.toLocator).1 = .ok document := load_of_serves h ha
  have hstep : (g.getSchema r).2 = (g.document r.toLocator).2 := rfl
  have hnone (l : Reference) : g.cached? l = none := rfl
  rw [hstep]
  by_cases hsame : l.locator = r.toLocator.locator
  · rw [if_pos (mem_locatorsOf_iff.2 (.inl hsame)), cached?_congr _ hsame, cached?_document,
      document_of_not_cached (hnone _), hload]
  -- What the look-up covers apart from its own locator is the one that the document names.
  have hcovers : g.Covers r.toLocator l ↔
      l.locator ∈ (locatorsOf r.toLocator document).map Reference.locator := by
    simp only [mem_locatorsOf_iff, Covers, hload, Except.ok.injEq]
    exact or_congr_right ⟨fun ⟨_, second, hd, hs⟩ => ⟨second, hd ▸ hs⟩,
      fun ⟨second, hs⟩ => ⟨document, second, rfl, hs⟩⟩
  obtain ⟨hkept, hother⟩ := cached?_document_of_ne (hnone r.toLocator) hsame
  by_cases hl : l.locator ∈ (locatorsOf r.toLocator document).map Reference.locator
  · rw [if_pos hl, hkept (hcovers.2 hl), hnone, hload]
    rfl
  · rw [if_neg hl, hother (mt hcovers.1 hl), hnone]

/-- **Fetched or registered, a registry keeps the same.** -/
theorem cached?_getSchema_eq_register (h : Serves fetchers r.toLocator document)
    (ha : voc.accepts document) (fetchers' : List (List Char × Fetcher)) (l : Reference) :
    ((fresh fetchers voc).getSchema r).2.cached? l =
      ((fresh fetchers' voc).register r document).2.cached? l := by
  rw [cached?_getSchema_of_serves h ha, cached?_register, filedFor_of_accepts ha]
  rfl

/-- A document that is kept for a locator answers until this locator is written. -/
theorem cached?_after_of_ok (hc : g.cached? l = some (.ok document)) {ops : List Operation}
    (hw : ∀ w ∈ g.writtenBy ops, w.locator ≠ l.locator) :
    (g.after ops).cached? l = some (.ok document) := by
  refine ((advances_after g ops).keeps l (fun hm => ?_) (Option.isSome_of_eq_some hc)).trans hc
  obtain ⟨w, hm, he⟩ := List.mem_map.1 hm
  exact hw w hm he

/-- **Fetched and registered documents answer alike.** One registry has fetched a document that its
vocabulary accepts, and in another one it was registered. Whatever is done with the two from then
on, other than writing a locator of the document, references to this locator are answered alike. -/
theorem answers_alike_of_serves (h : Serves fetchers locator.toLocator document)
    (ha : voc.accepts document) (fetchers' : List (List Char × Fetcher))
    (hl : l ∈ locatorsOf locator.toLocator document) (ops ops' : List Operation) :
    let g := ((fresh fetchers voc).getSchema locator).2
    let g' := ((fresh fetchers' voc).register locator document).2
    (∀ w ∈ g.writtenBy ops ++ g'.writtenBy ops', w.locator ≠ l.locator) →
      (∀ r : Reference, r.toLocator.locator = l.locator →
        ((g.after ops).getSchema r).1 = ((g'.after ops').getSchema r).1 ∧
          ((g'.after ops').getSchema r).1 = nodeOf r document) ∧
      ∀ r : Reference, r.locator = l.locator →
        (g.after ops).isCached r = (g'.after ops').isCached r ∧
          (g'.after ops').isCached r = true := by
  intro g g' hw
  have hc : g.cached? l = some (.ok document) := by
    rw [cached?_getSchema_of_serves h ha, if_pos (List.mem_map.2 ⟨l, hl, rfl⟩)]
  have hc' : g'.cached? l = some (.ok document) := by
    rw [← hc, cached?_getSchema_eq_register h ha]
  have hkept := cached?_after_of_ok hc fun w hm => hw w (List.mem_append_left _ hm)
  have hkept' := cached?_after_of_ok hc' fun w hm => hw w (List.mem_append_right _ hm)
  refine ⟨fun r hr => ?_, fun r hr => ?_⟩
  · rw [← cached?_congr _ hr] at hkept hkept'
    rw [getSchema_fst, getSchema_fst, document_of_cached? hkept, document_of_cached? hkept']
    exact ⟨rfl, rfl⟩
  · rw [← cached?_congr _ hr] at hkept hkept'
    rw [isCached, isCached, hkept, hkept']
    exact ⟨rfl, rfl⟩

theorem serves_site : Serves site siteLocator.toLocator named :=
  ⟨_, _, _, rfl, rfl, by cbv, by cbv⟩

theorem answers_alike_site :
    (((fresh site .standard).getSchema siteLocator).2.getSchema nameLocator).1 =
        (((fresh [] .standard).register siteLocator named).2.getSchema nameLocator).1 ∧
      (((fresh [] .standard).register siteLocator named).2.getSchema nameLocator).1 =
        nodeOf nameLocator named := by
  have haccepts : Vocabulary.standard.accepts named := by decide +kernel
  have hsecond : siteLocator.toLocator.secondLocator? named = some nameLocator := by cbv
  have hname : nameLocator ∈ locatorsOf siteLocator.toLocator named := by
    simp [locatorsOf, hsecond]
  exact (answers_alike_of_serves serves_site haccepts [] hname [] [] (by simp [writtenBy])).1
    nameLocator (by cbv)

end Registry

end JsonSchema
