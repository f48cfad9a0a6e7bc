import JsonSchema.Proofs.Percent
import JsonSchema.Proofs.Uri
import JsonSchema.Reference
import Mathlib

/-!
# References and their locators

A locator is stable if normalization leaves it as it is, with every pointer as its fragment. Places
of a document with a stable locator are named by references that lead back to the locator.

* `toLocator_withPointer` and `fragment_withPointer`: what a reference to a place addresses.
* `IsNormal`: references that come from clean texts, closed under all operations.
* `isStable_toLocator_of_relative`: locators without scheme are stable.
-/

namespace JsonSchema

namespace Uri

variable {u : Uri}

theorem normalize_of_isOpaque (h : u.isOpaque) : u.normalize = u := by
  rw [normalize, if_pos h]

theorem normalize_of_hierarchical (ho : u.isOpaque = false) (hs : u.scheme.isSome) :
    u.normalize =
      (u.toUrl?.bind ofUrl?).getD { u with path := removeDotSegments u.path } := by
  rw [normalize, if_neg (by rw [ho]; exact Bool.false_ne_true)]
  exact if_pos hs

theorem normalize_of_scheme_eq_none (h : u.scheme = none) :
    u.normalize = { u with path := removeDotSegments u.path } := by
  simp [normalize, isOpaque, h]

theorem isClean_of_toOption_parse {text : List Char} (h : (parse text).toOption = some u) :
    u.IsClean := by
  cases hp : parse text with
  | error e => rw [hp] at h; cases h
  | ok w =>
    rw [hp] at h
    cases h
    exact isClean_of_parse hp

theorem isClean_of_ofUrl? {url : Url} (h : ofUrl? url = some u) : u.IsClean :=
  isClean_of_toOption_parse h

/-- Normalization keeps a reference clean. -/
theorem IsClean.normalize (h : u.IsClean) : u.normalize.IsClean := by
  unfold Uri.normalize
  have hrelative : ({ u with path := removeDotSegments u.path } : Uri).IsClean :=
    ⟨h.1, h.2, isCleanText_removeDotSegments h.3, h.4, h.5⟩
  split
  · exact h
  simp only
  split
  · cases hn : u.toUrl?.bind ofUrl? with
    | none => exact hrelative
    | some v =>
      obtain ⟨url, -, hv⟩ := Option.bind_eq_some_iff.1 hn
      exact isClean_of_ofUrl? hv
  · exact hrelative

theorem isCleanText_merge {base : Uri} {relative : List Char} (hb : base.IsClean)
    (hr : IsCleanText relative) : IsCleanText (merge base relative) := by
  unfold merge
  split
  · exact isCleanText_cons.2 ⟨by decide, hr⟩
  · refine isCleanText_append.2 ⟨fun c hc => hb.path c ?_, hr⟩
    exact List.mem_reverse.1 ((List.dropWhile_suffix _).subset (List.mem_reverse.1 hc))

theorem IsClean.mergeRelative {base reference : Uri} (hb : base.IsClean)
    (hr : reference.IsClean) : (mergeRelative base reference).IsClean := by
  unfold Uri.mergeRelative
  split
  · exact ⟨hb.1, hr.2, isCleanText_removeDotSegments hr.3, hr.4, hr.5⟩
  split
  · refine ⟨hb.1, hb.2, hb.3, ?_, hr.5⟩
    cases hq : reference.query with
    | none => exact hb.query
    | some q =>
      have h := hr.query
      rwa [hq] at h
  · refine ⟨hb.1, hb.2, ?_, hr.4, hr.5⟩
    simp only
    split
    · exact isCleanText_removeDotSegments hr.3
    · exact isCleanText_removeDotSegments (isCleanText_merge hb hr.3)

/-- Resolution keeps references clean. -/
theorem IsClean.resolve {base reference : Uri} (hb : base.IsClean) (hr : reference.IsClean) :
    (base.resolve reference).IsClean := by
  unfold Uri.resolve
  split
  · exact hr.normalize
  split
  · simp only
    cases hj : base.toUrl?.bind fun url =>
        ((url.join reference.toChars).toOption).bind ofUrl? with
    | none => exact hr.normalize
    | some v =>
      obtain ⟨url, -, hu⟩ := Option.bind_eq_some_iff.1 hj
      obtain ⟨joined, -, hv⟩ := Option.bind_eq_some_iff.1 hu
      exact isClean_of_ofUrl? hv
  · exact hb.mergeRelative hr

end Uri

namespace Reference

variable {n r base other : Reference} {pointer : List Char}

/-! ## Stable locators -/

/-- A locator that normalization leaves as it is, with every pointer. -/
structure IsStable (n : Reference) : Prop where
  bare : n.uri.fragment = none
  plain : '#' ∉ n.uri.toChars
  normal : n.uri.normalize = n.uri
  pointed : ∀ pointer, (n.uri.withFragment (some (encodeFragment pointer))).normalize =
    n.uri.withFragment (some (encodeFragment pointer))

theorem decode_encodeFragment (pointer : List Char) :
    Percent.decode (encodeFragment pointer) = pointer :=
  Percent.decode_encode (by decide) pointer

theorem decode_nil : Percent.decode [] = [] :=
  decode_encodeFragment []

theorem eq_empty_of_toChars_eq_nil (h : n.uri.toChars = []) : n = empty :=
  congrArg Reference.mk (Uri.eq_empty_of_toChars_eq_nil h)

namespace IsStable

variable (h : n.IsStable)

include h

theorem ofUri_uri : ofUri n.uri = n := by
  unfold ofUri
  rw [h.normal]
  simp only
  split
  · rename_i hc
    rcases hc with hnil | hsharp
    · exact (eq_empty_of_toChars_eq_nil hnil).symm
    · exact absurd (by rw [hsharp]; exact List.mem_singleton_self _) h.plain
  · rfl

theorem toLocator : n.toLocator = n := by
  rw [Reference.toLocator, Uri.withFragment_self h.bare, h.ofUri_uri]

theorem locator : n.locator = n.uri.toChars := by
  rw [Reference.locator, Uri.withFragment_self h.bare]

/-- The reference to a place is written as the locator with the pointer. -/
theorem withPointer_cases (pointer : List Char) :
    (n = empty ∧ pointer = [] ∧ n.withPointer pointer = empty) ∨
      n.withPointer pointer = ⟨n.uri.withFragment (some (encodeFragment pointer))⟩ := by
  unfold withPointer ofUri
  rw [h.pointed pointer]
  simp only
  split
  · rename_i hc
    rw [Uri.toChars_withFragment_some, Uri.withFragment_self h.bare] at hc
    rcases hc with hnil | hsharp
    · simp at hnil
    rcases hchars : n.uri.toChars with _ | ⟨c, rest⟩
    · rw [hchars] at hsharp
      have he : encodeFragment pointer = [] := List.tail_eq_of_cons_eq hsharp
      have hp := decode_encodeFragment pointer
      rw [he, decode_nil] at hp
      exact .inl ⟨eq_empty_of_toChars_eq_nil hchars, hp.symm, rfl⟩
    · rw [hchars] at hsharp
      simp at hsharp
  · exact .inr rfl

theorem toLocator_withPointer (pointer : List Char) :
    (n.withPointer pointer).toLocator = n := by
  rcases h.withPointer_cases pointer with ⟨rfl, -, he⟩ | he
  · rw [he, h.toLocator]
  · rw [he, Reference.toLocator]
    change ofUri (n.uri.withFragment none) = n
    rw [Uri.withFragment_self h.bare, h.ofUri_uri]

theorem fragment_withPointer (pointer : List Char) :
    (n.withPointer pointer).fragment = .ofText pointer := by
  rcases h.withPointer_cases pointer with ⟨-, rfl, he⟩ | he
  · rw [he, fragment, show empty.rawFragment = [] from rfl, decode_nil]
  · rw [he, fragment]
    change Fragment.ofText (Percent.decode (encodeFragment pointer)) = _
    rw [decode_encodeFragment]

/-- The text that identifies a place is the locator with the pointer. -/
theorem canonical_withPointer (pointer : List Char) :
    (n.withPointer pointer).canonical = n.locator ++ '#' :: encodeFragment pointer := by
  rcases h.withPointer_cases pointer with ⟨rfl, rfl, he⟩ | he
  · rw [he]
    rfl
  · rw [he, canonical, rawFragment, Uri.toChars_withFragment_some]
    rfl

end IsStable

/-! ## Normal references -/

theorem isCleanText_encodeFragment (pointer : List Char) :
    Uri.IsCleanText (encodeFragment pointer) := by
  intro c hc
  rcases Percent.mem_encode hc with hsign | ⟨-, hescape, hascii⟩
  · have hall : ∀ c ∈ Percent.escapeSigns, Uri.isForbidden c = false ∧ c ≠ '#' :=
      List.all_iff_forall_prop.1 (by decide)
    exact hall c hsign
  · revert hescape
    refine Uri.of_isAscii hascii ?_
    decide

/-- A reference that comes from a clean text. -/
def IsNormal (r : Reference) : Prop :=
  ∃ u : Uri, u.IsClean ∧ r = ofUri u

theorem isClean_withPointer {u : Uri} (h : u.IsClean) (pointer : List Char) :
    (u.withFragment (some (encodeFragment pointer))).IsClean :=
  h.withFragment (isCleanText_encodeFragment pointer)

theorem isClean_of_isNormal (h : r.IsNormal) : r.uri.IsClean := by
  obtain ⟨u, hu, rfl⟩ := h
  unfold ofUri
  simp only
  split
  · exact Uri.isClean_empty
  · exact hu.normalize

theorem isNormal_ofUri {u : Uri} (h : u.IsClean) : (ofUri u).IsNormal :=
  ⟨u, h, rfl⟩

theorem isNormal_empty : empty.IsNormal :=
  ⟨.empty, Uri.isClean_empty, by decide⟩

theorem exists_uri_of_parse {text : String} (h : parse text = .ok r) :
    ∃ u, Uri.parse text.toList = .ok u ∧ ofUri u = r := by
  unfold parse at h
  cases hp : Uri.parse text.toList with
  | error cause => rw [hp] at h; cases h
  | ok u =>
    rw [hp] at h
    exact ⟨u, rfl, Except.ok.inj h⟩

theorem isNormal_of_parse {text : String} (h : parse text = .ok r) : r.IsNormal := by
  obtain ⟨u, hu, rfl⟩ := exists_uri_of_parse h
  exact isNormal_ofUri (Uri.isClean_of_parse hu)

theorem IsNormal.toLocator (h : r.IsNormal) : r.toLocator.IsNormal :=
  isNormal_ofUri (isClean_of_isNormal h).bare

theorem IsNormal.withPointer (h : r.IsNormal) (pointer : List Char) :
    (r.withPointer pointer).IsNormal :=
  isNormal_ofUri (isClean_withPointer (isClean_of_isNormal h) pointer)

theorem IsNormal.resolve (hb : base.IsNormal) (ho : other.IsNormal) :
    (base.resolve other).IsNormal := by
  unfold Reference.resolve
  split
  · exact ho
  refine isNormal_ofUri ?_
  cases ha : resolveInArchive? base other with
  | none => exact (isClean_of_isNormal hb).resolve (isClean_of_isNormal ho)
  | some u =>
    simp only [resolveInArchive?] at ha
    split at ha
    · cases ha
    · obtain ⟨⟨archive, entry⟩, -, ha⟩ := Option.bind_eq_some_iff.1 ha
      obtain ⟨place, -, ha⟩ := Option.bind_eq_some_iff.1 ha
      exact Uri.isClean_of_toOption_parse ha

/-! ## References without scheme -/

theorem isStable_empty : empty.IsStable where
  bare := rfl
  plain := by decide
  normal := by decide
  pointed pointer := by
    rw [Uri.normalize_of_scheme_eq_none rfl]
    rfl

/-- A locator without scheme is stable. -/
theorem isStable_ofUri_of_relative {u : Uri} (hs : u.scheme = none) (hc : u.IsClean)
    (hf : u.fragment = none) : (ofUri u).IsStable := by
  unfold ofUri
  simp only
  split
  · exact isStable_empty
  rw [Uri.normalize_of_scheme_eq_none hs]
  have hstay (fragment : Option (List Char)) :
      (({ u with path := Uri.removeDotSegments u.path } : Uri).withFragment fragment).normalize =
        ({ u with path := Uri.removeDotSegments u.path } : Uri).withFragment fragment := by
    rw [Uri.normalize_of_scheme_eq_none (by exact hs)]
    simp only [Uri.withFragment, Uri.removeDotSegments_idem]
  refine ⟨hf, fun h => ?_, ?_, fun pointer => hstay _⟩
  · have hclean : ({ u with path := Uri.removeDotSegments u.path } : Uri).IsClean :=
      ⟨hc.1, hc.2, Uri.isCleanText_removeDotSegments hc.3, hc.4, hc.5⟩
    have hchars := hclean.chars
    rw [Uri.withFragment_self (by exact hf)] at hchars
    exact (hchars _ h).2 rfl
  · have h := hstay none
    rwa [Uri.withFragment_self (by exact hf)] at h

theorem isStable_toLocator_of_relative (h : r.IsNormal) (hs : r.scheme = none) :
    r.toLocator.IsStable :=
  isStable_ofUri_of_relative hs (isClean_of_isNormal h).bare rfl

theorem ofUri_congr {u v : Uri} (h : u.normalize = v.normalize) : ofUri u = ofUri v := by
  unfold ofUri
  rw [h]

theorem uri_toLocator_of_relative (h : r.IsNormal) (hs : r.scheme = none) :
    r.toLocator.uri =
      { r.uri with path := Uri.removeDotSegments r.uri.path, fragment := none } := by
  have hnormal : (r.uri.withFragment none).normalize =
      { r.uri with path := Uri.removeDotSegments r.uri.path, fragment := none } :=
    Uri.normalize_of_scheme_eq_none (u := r.uri.withFragment none) hs
  have hclean := (isClean_of_isNormal h).bare.normalize
  rw [← hnormal]
  unfold toLocator ofUri
  simp only
  split
  · rename_i hchars
    rcases hchars with hnil | hsharp
    · exact (Uri.eq_empty_of_toChars_eq_nil hnil).symm
    · have hchars := hclean.chars
      rw [Uri.withFragment_self (by rw [hnormal]), hsharp] at hchars
      exact absurd rfl (hchars '#' (List.mem_singleton_self _)).2
  · rfl

/-- A place is named from the locator as it is named from the reference. -/
theorem withPointer_toLocator_of_relative (h : r.IsNormal) (hs : r.scheme = none)
    (pointer : List Char) : r.toLocator.withPointer pointer = r.withPointer pointer := by
  refine ofUri_congr ?_
  rw [uri_toLocator_of_relative h hs, Uri.normalize_of_scheme_eq_none (by exact hs),
    Uri.normalize_of_scheme_eq_none (by exact hs)]
  simp only [Uri.withFragment, Uri.removeDotSegments_idem]

end Reference

end JsonSchema
