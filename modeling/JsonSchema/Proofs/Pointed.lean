import JsonSchema.Proofs.Grammar
import JsonSchema.Proofs.Interchange
import Mathlib

/-!
# Pointers in references

A pointer is put into a reference as its fragment, with escapes for what a fragment may not hold.
The reference is brought to its normal form again then, which changes nothing more if it has no
scheme or no hierarchy: it is in its normal form already, whatever it was made of. For references
without scheme this rests on the fact that normalization loses no scheme.

* `Url.exists_splitScheme_of_parse`: the scheme of a URL is the one of the text that it is read
  from.
* `Uri.scheme_eq_none_of_normalize`: normalization loses no scheme.
* `Reference.normalize_withFragment`: a reference in its normal form takes any fragment.
* `Reference.pointer_read_back`: a pointer is read back from the reference that it was put into.
-/

namespace JsonSchema

namespace Url

variable {x : Url} {scheme text : List Char}

/-! ## Schemes of URLs -/

theorem scheme_of_afterSlashes (h : afterSlashes scheme text = .ok x) : x.scheme = scheme := by
  obtain ⟨a, -, h⟩ := Uri.bind_eq_ok_iff.1 h
  rw [← Except.ok.inj h]
  rfl

theorem scheme_of_fileWithHost (h : fileWithHost text = .ok x) : x.scheme = fileScheme := by
  rw [fileWithHost_eq rfl] at h
  obtain ⟨host, -, rfl⟩ := Uri.map_eq_ok_iff.1 h
  rfl

theorem scheme_of_fileUrl (h : fileUrl none text = .ok x) : x.scheme = fileScheme := by
  unfold fileUrl at h
  split at h
  · split at h
    · split at h
      · split at h
        · exact scheme_of_fileWithHost h
        · cases h
          rfl
      · cases h
        rfl
    · cases h
      rfl
  · cases h
    rfl

/-- The scheme of a URL is the one of the text that it is read from. -/
theorem exists_splitScheme_of_parse (h : parse text = .ok x) :
    ∃ rest, splitScheme (clean text) = some (x.scheme, rest) := by
  unfold parse parseWith at h
  simp only at h
  split at h
  · rename_i scheme rest hscheme
    rw [hscheme]
    refine ⟨rest, ?_⟩
    suffices hx : x.scheme = scheme by rw [hx]
    split at h
    · rename_i hfile
      rw [eq_fileScheme hfile]
      exact scheme_of_fileUrl h
    · exact scheme_of_afterSlashes h
    · split at h
      · exact scheme_of_afterSlashes h
      · cases h
        rfl
  · cases h

end Url

namespace Uri

variable {u w : Uri} {text : List Char} {x : Url}

/-- A URL that was read from some text is a reference with a scheme. -/
theorem isSome_scheme_of_ofUrl? (hx : Url.parse text = .ok x) (h : ofUrl? x = some w) :
    w.scheme.isSome := by
  obtain ⟨rest, hscheme⟩ := Url.exists_splitScheme_of_parse hx
  have hname : ∀ c ∈ x.scheme, isInner c = true := fun c hc => by
    refine of_isSchemeChar (Url.isSchemeChar_of_splitScheme hscheme c hc) ?_
    decide
  have hcut := schemeCut?_eq_some_iff.2 ⟨Url.toChars_eq x, hname⟩
  rcases toChars_cases_of_parse (toOption_eq_some.1 h) with ⟨hnone, -⟩ | ⟨_, _, -, hsome, -⟩
  · rw [hcut] at hnone
    cases hnone
  · exact hsome

/-- Normalization loses no scheme. -/
theorem scheme_eq_none_of_normalize (h : u.normalize.scheme = none) : u.scheme = none := by
  by_contra hne
  have hsome := Option.isSome_iff_ne_none.2 hne
  cases ho : u.isOpaque with
  | true =>
    rw [normalize_of_isOpaque ho] at h
    exact hne h
  | false =>
    rw [normalize_of_hierarchical ho hsome] at h
    cases hw : u.toUrl?.bind ofUrl? with
    | none =>
      rw [hw] at h
      exact hne h
    | some w =>
      obtain ⟨x, hx, hxw⟩ := Option.bind_eq_some_iff.1 hw
      have hscheme := isSome_scheme_of_ofUrl? (toOption_eq_some.1 hx) hxw
      rw [hw, Option.getD_some] at h
      rw [h] at hscheme
      cases hscheme

/-- A fragment alone is read as a reference to a place in the same document. -/
theorem parse_sharp {fragment : List Char} (hw : IsWritable fragment) (hsharp : '#' ∉ fragment) :
    parse ('#' :: fragment) = .ok (empty.withFragment (some fragment)) :=
  (@parse_append _ [] _ List.not_mem_nil).2 ⟨⟨trivial, hw⟩, hsharp, empty, rfl, rfl⟩

end Uri

namespace Reference

variable {u w : Uri} {f p : List Char}

/-! ## Normal forms -/

theorem uri_ofUri_cases (u : Uri) : (ofUri u).uri = .empty ∨ (ofUri u).uri = u.normalize := by
  unfold ofUri
  simp only
  split
  · exact .inl rfl
  · exact .inr rfl

/-- The path of a reference without scheme has no dot segments that could be resolved. -/
theorem removeDotSegments_of_ofUri (h : (ofUri u).scheme = none) :
    Uri.removeDotSegments (ofUri u).uri.path = (ofUri u).uri.path := by
  unfold scheme at h
  rcases uri_ofUri_cases u with hempty | hnormal
  · rw [hempty]
    rfl
  · rw [hnormal] at h ⊢
    rw [Uri.normalize_of_scheme_eq_none (Uri.scheme_eq_none_of_normalize h)]
    exact Uri.removeDotSegments_idem _

/-- **A reference without a hierarchical scheme takes any fragment** and stays in its normal
form. -/
theorem normalize_withFragment (h : (ofUri u).IsUnhierarchical) (fragment : Option (List Char)) :
    ((ofUri u).uri.withFragment fragment).normalize = (ofUri u).uri.withFragment fragment := by
  rcases h with hs | ho
  · have hpath := removeDotSegments_of_ofUri hs
    rw [Uri.normalize_of_scheme_eq_none (by exact hs)]
    exact congrArg (fun path => { (ofUri u).uri.withFragment fragment with path }) hpath
  · exact Uri.normalize_of_isOpaque ho

/-- A normal form with a fragment is the reference itself, but for an empty fragment alone. -/
theorem parts_ofUri (hn : w.normalize = w) (hf : w.fragment = some f) :
    (ofUri w).locator = (w.withFragment none).toChars ∧ (ofUri w).rawFragment = f := by
  unfold ofUri
  rw [hn]
  simp only
  split
  · rename_i hchars
    rcases hchars with hnil | hsharp
    · rw [Uri.eq_empty_of_toChars_eq_nil hnil] at hf
      cases hf
    · obtain ⟨hfront, rfl⟩ := Uri.eq_nil_of_toChars_eq_sharp hf hsharp
      exact ⟨hfront.symm, rfl⟩
  · exact ⟨rfl, by rw [rawFragment, hf]; rfl⟩

/-- **A pointer is read back from the reference that it was put into.** Behind a `#` every text is
read back; put into a reference without a hierarchical scheme, a pointer is what the reference
addresses, in the same document. -/
theorem pointer_read_back (p : List Char) :
    (∃ u, Uri.parse ('#' :: encodeFragment p) = .ok u ∧
      u.fragment.map Percent.decode = some p) ∧
    ∀ u : Uri, (ofUri u).IsUnhierarchical → p = [] ∨ p.head? = some '/' →
      ((ofUri u).withPointer p).fragment = .pointer p ∧
        ((ofUri u).withPointer p).locator = (ofUri u).locator := by
  refine ⟨⟨_, Uri.parse_sharp (Uri.isWritable_encodeFragment p) ?_, ?_⟩, fun u hu hp => ?_⟩
  · exact fun hm => (isCleanText_encodeFragment p '#' hm).2 rfl
  · exact congrArg some (decode_encodeFragment p)
  · obtain ⟨hlocator, hfragment⟩ :=
      parts_ofUri (normalize_withFragment hu (some (encodeFragment p))) rfl
    refine ⟨?_, hlocator⟩
    rw [fragment, withPointer, hfragment, decode_encodeFragment, Fragment.ofText, if_pos hp]

/-- A pointer with signs that have a meaning in references, in an archive and in a relative path. -/
theorem pointer_read_back_signs :
    ∃ a b, parse "jar:file:/p/x.jar!/d.json#old" = .ok a ∧ parse "../d.json?v" = .ok b ∧
      (a.withPointer "/é#%[0]~1 a".toList).fragment = .pointer "/é#%[0]~1 a".toList ∧
      (b.withPointer "/é#%[0]~1 a".toList).fragment = .pointer "/é#%[0]~1 a".toList ∧
      (b.withPointer []).locator = b.locator := by
  obtain ⟨u, hu, ho⟩ : ∃ u, parse "jar:file:/p/x.jar!/d.json#old" = .ok (ofUri u) ∧
      (ofUri u).uri.isOpaque :=
    ⟨⟨some "jar".toList, none, "file:/p/x.jar!/d.json".toList, none, some "old".toList⟩,
      by cbv, by cbv⟩
  obtain ⟨v, hv, hs⟩ : ∃ v, parse "../d.json?v" = .ok (ofUri v) ∧ (ofUri v).scheme = none :=
    ⟨⟨none, none, "../d.json".toList, some "v".toList, none⟩, by cbv, by cbv⟩
  have hp : "/é#%[0]~1 a".toList.head? = some '/' := rfl
  exact ⟨ofUri u, ofUri v, hu, hv, ((pointer_read_back _).2 u (.inr ho) (.inr hp)).1,
    ((pointer_read_back _).2 v (.inl hs) (.inr hp)).1,
    ((pointer_read_back []).2 v (.inl hs) (.inl rfl)).2⟩

end Reference

end JsonSchema
