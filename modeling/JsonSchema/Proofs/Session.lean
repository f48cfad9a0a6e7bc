import JsonSchema.Proofs.Evaluation
import JsonSchema.Proofs.Registry
import Mathlib

/-!
# Runs of a registry

What a registry does in the course of its life: it is asked for schemas and documents, it takes
documents, and values are validated with it. The fetchers may come to answer otherwise between any
two operations.

* `Registry.Advances` is what every operation does, apart from the locators that it writes:
  what is kept stays, and fetchers are asked for what is not kept only, and then keep it.
* `Registry.advances_document` is the one step at which a fetcher is asked; the other
  operations are put together from it.
* `Registry.advances_after` is a whole run, by induction on the operations.
* `Registry.fetches_once_and_answers_once`: what a run says about fetches and answers.
-/

namespace JsonSchema

namespace Registry

variable {g g' g'' : Registry} {touched touched' : List Reference} {r l locator : Reference}
  {outcome : Outcome} {document : Json}

/-! ## What an operation may change -/

/-- From one registry to a later one, outcomes are kept but for some written locators, and the
fetchers were asked for locators of which nothing was kept. -/
structure Advances (touched : List Reference) (g g' : Registry) : Prop where
  keeps : ∀ r, r.locator ∉ touched.map Reference.locator → (g.cached? r).isSome →
    g'.cached? r = g.cached? r
  stays : ∀ r, (g.cached? r).isSome → (g'.cached? r).isSome
  asks : ∃ asked, g'.requests = g.requests ++ asked ∧ (asked.map Reference.locator).Nodup ∧
    ∀ r ∈ asked, g.cached? r = none ∧ (g'.cached? r).isSome

theorem cached?_congr (g : Registry) (h : r.locator = l.locator) : g.cached? r = g.cached? l := by
  simp only [cached?, h]

namespace Advances

theorem refl (g : Registry) : Advances [] g g :=
  ⟨fun _ _ _ => rfl, fun _ h => h, [], (List.append_nil _).symm, List.nodup_nil, by simp⟩

theorem trans (h : Advances touched g g') (h' : Advances touched' g' g'') :
    Advances (touched ++ touched') g g'' where
  keeps r hr hc := by
    rw [List.map_append, List.mem_append, not_or] at hr
    rw [h'.keeps r hr.2 (h.stays r hc), h.keeps r hr.1 hc]
  stays r hc := h'.stays r (h.stays r hc)
  asks := by
    obtain ⟨asked, he, hd, hn⟩ := h.asks
    obtain ⟨asked', he', hd', hn'⟩ := h'.asks
    refine ⟨asked ++ asked', by rw [he', he, List.append_assoc], ?_, fun r hr => ?_⟩
    · rw [List.map_append, List.nodup_append']
      refine ⟨hd, hd', fun text ht ht' => ?_⟩
      obtain ⟨r, hr, rfl⟩ := List.mem_map.1 ht
      obtain ⟨r', hr', he⟩ := List.mem_map.1 ht'
      -- What was asked for first is kept, so it is not asked for again.
      have hkept := (hn r hr).2
      rw [← cached?_congr g' he, (hn' r' hr').1] at hkept
      cases hkept
    · rcases List.mem_append.1 hr with hr | hr
      · exact ⟨(hn r hr).1, h'.stays r (hn r hr).2⟩
      · refine ⟨?_, (hn' r hr).2⟩
        by_contra hc
        have hkept := h.stays r (Option.isSome_iff_ne_none.2 hc)
        rw [(hn' r hr).1] at hkept
        cases hkept

/-- A locator of which something is kept is not asked for. -/
theorem notMem_asked (h : Advances touched g g') (hc : (g.cached? r).isSome)
    (hl : l ∈ g'.requests.drop g.requests.length) : l.locator ≠ r.locator := by
  obtain ⟨asked, he, -, hn⟩ := h.asks
  rw [he, List.drop_left] at hl
  intro hlr
  rw [← cached?_congr g hlr, (hn l hl).1] at hc
  cases hc

/-- What nobody was asked for twice, nobody is asked for twice later. -/
theorem nodup_requests (h : Advances touched g g')
    (hd : (g.requests.map Reference.locator).Nodup) (hk : ∀ r ∈ g.requests, (g.cached? r).isSome) :
    (g'.requests.map Reference.locator).Nodup ∧ ∀ r ∈ g'.requests, (g'.cached? r).isSome := by
  obtain ⟨asked, he, hd', hn⟩ := h.asks
  rw [he]
  constructor
  · rw [List.map_append, List.nodup_append']
    refine ⟨hd, hd', fun text ht ht' => ?_⟩
    obtain ⟨r, hr, rfl⟩ := List.mem_map.1 ht
    obtain ⟨r', hr', he⟩ := List.mem_map.1 ht'
    have hkept := hk r hr
    rw [← cached?_congr g he, (hn r' hr').1] at hkept
    cases hkept
  · intro r hr
    rcases List.mem_append.1 hr with hr | hr
    · exact h.stays r (hk r hr)
    · exact (hn r hr).2

end Advances

/-! ## Keeping outcomes -/

theorem advances_put (g : Registry) (locator : Reference) (outcome : Outcome) :
    Advances [locator] g (g.put locator outcome) where
  keeps r hr _ := by
    rw [cached?_put, if_neg (by simpa using hr)]
  stays r hc := by
    rw [cached?_put]
    split
    · rfl
    · exact hc
  asks := ⟨[], (List.append_nil _).symm, List.nodup_nil, by simp⟩

theorem advances_putNew (g : Registry) (locator : Reference) (outcome : Outcome) :
    Advances [] g (g.putNew locator outcome) where
  keeps r _ hc := by
    rw [cached?_putNew]
    split
    · obtain ⟨kept, hk⟩ := Option.isSome_iff_exists.1 hc
      rw [hk]
      rfl
    · rfl
  stays r hc := by
    rw [cached?_putNew]
    split
    · rfl
    · exact hc
  asks := by
    refine ⟨[], ?_, List.nodup_nil, by simp⟩
    unfold putNew
    split
    · exact (List.append_nil _).symm
    · exact (List.append_nil _).symm

theorem advances_putAlias (g : Registry) (locator : Reference) (outcome : Outcome) :
    Advances [] g (g.putAlias locator outcome) := by
  unfold putAlias
  split
  · split
    · exact advances_putNew g _ _
    · exact .refl g
  · exact .refl g

/-! ## Looking up documents -/

theorem document_of_not_cached (hc : g.cached? locator = none) :
    g.document locator = ((g.load locator).1,
      (({ g with requests := g.requests ++ if (g.load locator).2 then [locator] else [] } :
        Registry).put locator (g.load locator).1).putAlias locator (g.load locator).1) := by
  simp only [document, hc]

/-- A fetcher is asked for a document of which nothing is kept, and what it gives is kept. -/
theorem advances_load (hc : g.cached? locator = none) :
    Advances [] g (({ g with
      requests := g.requests ++ if (g.load locator).2 then [locator] else [] } : Registry).put
        locator (g.load locator).1) where
  keeps r _ hkept := by
    rw [cached?_put, if_neg fun he => ?_]
    · rfl
    · rw [cached?_congr g he, hc] at hkept
      cases hkept
  stays r hkept := by
    rw [cached?_put]
    split
    · rfl
    · exact hkept
  asks := by
    refine ⟨if (g.load locator).2 then [locator] else [], rfl, ?_, fun r hr => ?_⟩
    · split <;> simp
    · obtain rfl : r = locator := by
        split at hr
        · exact List.mem_singleton.1 hr
        · cases hr
      refine ⟨hc, ?_⟩
      rw [cached?_put, if_pos rfl]
      rfl

/-- **Looking up a document** asks for it only if nothing is kept. -/
theorem advances_document (g : Registry) (locator : Reference) :
    Advances [] g (g.document locator).2 := by
  cases hc : g.cached? locator with
  | some outcome =>
    rw [document_of_cached? hc]
    exact .refl g
  | none =>
    rw [document_of_not_cached hc]
    exact (advances_load hc).trans (advances_putAlias _ locator _)

theorem cached?_document (g : Registry) (locator : Reference) :
    (g.document locator).2.cached? locator = some (g.document locator).1 := by
  cases hc : g.cached? locator with
  | some outcome =>
    rw [document_of_cached? hc]
    exact hc
  | none =>
    have hput := cached?_put
      { g with requests := g.requests ++ if (g.load locator).2 then [locator] else [] } locator
      (g.load locator).1 locator
    rw [if_pos rfl] at hput
    rw [document_of_not_cached hc, ← hput]
    refine (advances_putAlias _ locator _).keeps locator (by simp) ?_
    rw [hput]
    rfl

theorem advances_getSchema (g : Registry) (r : Reference) : Advances [] g (g.getSchema r).2 :=
  advances_document g r.toLocator

theorem advances_find (g : Registry) (n : SchemaNode) (target : Target) :
    Advances [] g (g.find n target).2 := by
  unfold find
  split
  · exact advances_getSchema g _
  · exact .refl g

theorem getSchema_congr (hc : (g.cached? r.toLocator).isSome)
    (h : g'.cached? r.toLocator = g.cached? r.toLocator) :
    (g'.getSchema r).1 = (g.getSchema r).1 := by
  obtain ⟨outcome, ho⟩ := Option.isSome_iff_exists.1 hc
  rw [getSchema_fst, getSchema_fst, document_of_cached? ho, document_of_cached? (h.trans ho)]

/-! ## Validating -/

open Validation in
theorem advances_evaluate (state : State) (g : Registry) (schema : SchemaNode) (n : Instance) :
    Advances [] g (state.validate g schema n).2.2 :=
  Evaluation.validate_keeps (fun g' s t hg => hg.trans (advances_find g' s t)) state (.refl g)
    schema n

theorem advances_validate (g : Registry) (r : Reference) (value : Json) :
    Advances [] g (g.validate r value).2 := by
  have hget := advances_getSchema g r
  unfold validate
  split
  · rename_i schema g' he
    rw [he] at hget
    exact hget.trans (advances_evaluate {} g' schema (.root value))
  · rename_i cause g' he
    rw [he] at hget
    exact hget

/-! ## Registering -/

theorem advances_foldl_put (touched : List Reference) (g : Registry) (outcome : Outcome) :
    Advances touched g (touched.foldl (fun g l => g.put l outcome) g) := by
  induction touched generalizing g with
  | nil => exact .refl g
  | cons l rest ih => exact (advances_put g l outcome).trans (ih (g.put l outcome))

theorem advances_register (g : Registry) (r : Reference) (document : Json) :
    Advances (g.filedFor r document) g (g.register r document).2 := by
  rw [register_eq]
  exact advances_foldl_put _ g _

theorem isCached_register (hl : l ∈ g.filedFor r document) :
    (g.register r document).2.isCached l := by
  rw [isCached, cached?_register, if_pos (List.mem_map.2 ⟨l, hl, rfl⟩)]
  rfl

/-- The locators that registering a root document writes. -/
def filedForRoot (g : Registry) (document : Json) : List Reference :=
  match rootLocator document with
  | .ok locator => g.filedFor locator document
  | .error _ => []

theorem advances_registerRoot (g : Registry) (document : Json) :
    Advances (g.filedForRoot document) g (g.registerRoot document).2 := by
  unfold registerRoot filedForRoot
  cases rootLocator document with
  | error cause => exact .refl g
  | ok locator => exact advances_register g locator document

theorem isCached_registerRoot (hl : l ∈ g.filedForRoot document) :
    (g.registerRoot document).2.isCached l := by
  unfold filedForRoot at hl
  unfold registerRoot
  cases hr : rootLocator document with
  | error cause => rw [hr] at hl; cases hl
  | ok locator =>
    rw [hr] at hl
    exact isCached_register hl

/-! ## Operations -/

/-- What is done with a registry, or happens to it. -/
inductive Operation
  | getSchema (r : Reference)
  | isCached (r : Reference)
  /-- A schema is looked up from another one, below it or by a reference in it. -/
  | find (schema : SchemaNode) (target : Target)
  | register (r : Reference) (document : Json)
  | registerRoot (document : Json)
  | validate (r : Reference) (value : Json)
  /-- A node of an instance is evaluated in some state. -/
  | evaluate (state : Validation.State) (schema : SchemaNode) (n : Instance)
  /-- The fetchers come to answer otherwise. -/
  | change (fetchers : List (List Char × Fetcher))

namespace Operation

/-- The registry after an operation, whatever the operation gives. -/
def run (g : Registry) : Operation → Registry
  | getSchema r => (g.getSchema r).2
  | isCached _ => g
  | find schema target => (g.find schema target).2
  | register r document => (g.register r document).2
  | registerRoot document => (g.registerRoot document).2
  | validate r value => (g.validate r value).2
  | evaluate state schema n => (state.validate g schema n).2.2
  | change fetchers => { g with fetchers }

/-- The locators that an operation writes. -/
def written (g : Registry) : Operation → List Reference
  | register r document => g.filedFor r document
  | registerRoot document => g.filedForRoot document
  | _ => []

/-- **What one operation does.** -/
theorem advances_run (op : Operation) (g : Registry) : Advances (op.written g) g (op.run g) := by
  cases op with
  | getSchema r => exact advances_getSchema g r
  | isCached r => exact .refl g
  | find schema target => exact advances_find g schema target
  | register r document => exact advances_register g r document
  | registerRoot document => exact advances_registerRoot g document
  | validate r value => exact advances_validate g r value
  | evaluate state schema n => exact advances_evaluate state g schema n
  | change fetchers =>
    exact ⟨fun _ _ _ => rfl, fun _ h => h, [], (List.append_nil _).symm, List.nodup_nil, by simp⟩

/-- Something is kept for the locators that an operation writes. -/
theorem isCached_of_mem_written (op : Operation) (hl : l ∈ op.written g) :
    (op.run g).isCached l := by
  cases op with
  | register r document => exact isCached_register hl
  | registerRoot document => exact isCached_registerRoot hl
  | _ => cases hl

end Operation

/-- The registry after some operations. -/
def after (g : Registry) (ops : List Operation) : Registry :=
  ops.foldl Operation.run g

theorem after_append (g : Registry) (ops ops' : List Operation) :
    g.after (ops ++ ops') = (g.after ops).after ops' :=
  List.foldl_append

/-- The locators that some operations write. -/
def writtenBy (g : Registry) : List Operation → List Reference
  | [] => []
  | op :: rest => op.written g ++ (op.run g).writtenBy rest

/-- **What a run of operations does.** -/
theorem advances_after (g : Registry) (ops : List Operation) :
    Advances (g.writtenBy ops) g (g.after ops) := by
  induction ops generalizing g with
  | nil => exact .refl g
  | cons op rest ih => exact (op.advances_run g).trans (ih (op.run g))

/-- A registry that keeps nothing yet. -/
def fresh (fetchers : List (List Char × Fetcher)) (voc : Vocabulary) : Registry :=
  ⟨fetchers, voc, [], []⟩

/-- **Fetched once, answered once.** In the course of every run, fetchers are asked for a locator
at most once. Once something is kept for a locator, nobody is asked for it again, and references
to its document are answered in the same way until it is written. Something is kept for the
locators that were looked up, for those that fetched documents name, and for those that are
registered. -/
theorem fetches_once_and_answers_once (fetchers : List (List Char × Fetcher)) (voc : Vocabulary)
    (before later : List Operation) (r : Reference) :
    let g := (fresh fetchers voc).after before
    let g' := g.after later
    (g'.requests.map Reference.locator).Nodup ∧
      (g.isCached r.toLocator →
        (∀ l ∈ g'.requests.drop g.requests.length, l.locator ≠ r.toLocator.locator) ∧
          ((∀ l ∈ g.writtenBy later, l.locator ≠ r.toLocator.locator) →
            (g'.getSchema r).1 = (g.getSchema r).1)) ∧
      ((g.getSchema r).2.isCached r.toLocator ∧
        ((g.getSchema r).2.getSchema r).1 = (g.getSchema r).1) ∧
      (∀ document second, g.cached? r.toLocator = none →
        (g.document r.toLocator).1 = .ok document →
        r.toLocator.secondLocator? document = some second → (g.getSchema r).2.isCached second) ∧
      ∀ op : Operation, ∀ l ∈ op.written g, (op.run g).isCached l := by
  intro g g'
  have hstart := advances_after (fresh fetchers voc) before
  obtain ⟨hnodup, hkept⟩ := hstart.nodup_requests List.nodup_nil (by simp [fresh])
  have hlater := advances_after g later
  refine ⟨(hlater.nodup_requests hnodup hkept).1, fun hc => ⟨fun l hl => ?_, fun hw => ?_⟩,
    ?_, fun document second hc hd hs => ?_, fun op l hl => op.isCached_of_mem_written hl⟩
  · exact hlater.notMem_asked hc hl
  · refine getSchema_congr hc (hlater.keeps _ (fun hm => ?_) hc)
    obtain ⟨l, hl, he⟩ := List.mem_map.1 hm
    exact hw l hl he
  · have hkeeps : (g.getSchema r).2.cached? r.toLocator = some (g.document r.toLocator).1 :=
      cached?_document g r.toLocator
    refine ⟨Option.isSome_of_eq_some hkeeps, ?_⟩
    rw [getSchema_fst, document_of_cached? hkeeps, getSchema_fst]
  · rw [isCached, show (g.getSchema r).2 = (g.document r.toLocator).2 from rfl]
    rw [document_of_not_cached hc] at hd ⊢
    simp only at hd
    simp only [hd, putAlias, hs, cached?_putNew, if_true]
    rfl

end Registry

end JsonSchema
