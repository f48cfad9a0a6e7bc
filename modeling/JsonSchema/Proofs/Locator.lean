import JsonSchema.Proofs.Reference
import JsonSchema.Proofs.Url
import Mathlib

/-!
# Locators are stable

* `Uri.exists_bare_of_toUrl?`: what is accepted as a URL is accepted without its fragment.
* `Uri.IsUrl.isStable`: an accepted URL is its own normal form, with every pointer.
* `Reference.isStable_toLocator`: the locator of every normal reference is stable.
-/

namespace JsonSchema

namespace Uri

variable {u v w : Uri} {x : Url} {scheme rest : List Char}

/-! ## URLs as references -/

theorem splitScheme_append (h : IsScheme scheme) (rest : List Char) :
    splitScheme (scheme ++ ':' :: rest) = .ok (some scheme, rest) := by
  have hcolon : ':' ∉ scheme := fun hm =>
    absurd ((isSchemeName_iff.1 h.1).2 ':' hm) (by decide)
  have hslash : (scheme.any fun c => c = '/' || c = '?') = false :=
    List.any_eq_false.2 (forall_mem_of_isScheme h (by decide))
  have hname : isSchemeName scheme = true := h.1
  unfold splitScheme
  simp only [Text.cut?_append hcolon, hslash, hname, h.2]
  rfl

theorem toOption_eq_some {ε α : Type} {x : Except ε α} {a : α} :
    x.toOption = some a ↔ x = .ok a := by
  cases x <;> simp [Except.toOption]

/-- A fragment is read apart from the text in front of it. -/
theorem toOption_parse_append {text fragment : List Char} (h : '#' ∉ text)
    (hw : IsWritable fragment) (hf : '#' ∉ fragment) :
    (parse (text ++ '#' :: fragment)).toOption =
      (parse text).toOption.map fun u => u.withFragment (some fragment) := by
  refine Option.ext fun u => ?_
  rw [Option.map_eq_some_iff, toOption_eq_some, parse_append h]
  simp only [toOption_eq_some, parse_of_notMem h]
  constructor
  · rintro ⟨⟨ht, -⟩, -, w, hm, rfl⟩
    exact ⟨_, ⟨ht, w, hm, rfl⟩, rfl⟩
  · rintro ⟨_, ⟨ht, w, hm, rfl⟩, rfl⟩
    exact ⟨⟨ht, hw⟩, hf, w, hm, rfl⟩

theorem parse_of_append {text fragment : List Char} (h : '#' ∉ text)
    (hu : parse (text ++ '#' :: fragment) = .ok u) : parse text = .ok (u.withFragment none) := by
  obtain ⟨⟨ht, -⟩, -, w, hm, rfl⟩ := (parse_append h).1 hu
  exact (parse_of_notMem h).2 ⟨ht, w, hm, rfl⟩

theorem sharp_notMem_toChars (hx : x.IsNormal) (hf : x.fragment = none) : '#' ∉ x.toChars := by
  rw [Url.toChars_eq_append, hf, Option.elim_none, List.append_nil]
  exact fun hm => (hx.isMain '#' hm).2 rfl

theorem toChars_with_fragment (hf : x.fragment = none) (fragment : List Char) :
    { x with fragment := some fragment }.toChars = x.toChars ++ '#' :: fragment := by
  obtain ⟨scheme, authority, path, query, fragment⟩ := x
  obtain rfl : fragment = none := hf
  rw [Url.toChars_eq_append]
  rfl

theorem splitAuthority_append {authority path : List Char} (ha : '/' ∉ authority)
    (hp : path = [] ∨ path.head? = some '/') :
    splitAuthority ('/' :: '/' :: (authority ++ path)) = (some authority, path) := by
  have hall : ∀ c ∈ authority, decide (c ≠ '/') = true := fun c hc =>
    decide_eq_true fun he => ha (he ▸ hc)
  have hstop : ∀ c ∈ path.head?, decide (c ≠ '/') = false := by
    rcases hp with rfl | hp
    · exact nofun
    · rw [hp]
      simp
  rw [splitAuthority, Text.takeWhile_append hall hstop, Text.dropWhile_append hall hstop]

theorem splitOptional_fst_append {before : List Char} (hb : '?' ∉ before)
    (query : Option (List Char)) :
    (splitOptional '?' (before ++ query.elim [] ('?' :: ·))).1 = before := by
  cases query with
  | none => rw [Option.elim_none, List.append_nil, splitOptional_of_notMem hb]
  | some q => rw [Option.elim_some, splitOptional_append hb]

/-- What a URL in its final form is as a reference. -/
theorem ofUrl?_spec (hx : x.IsNormal) (hf : x.fragment = none) (h : ofUrl? x = some w) :
    w.toChars = x.toChars ∧ w.scheme = some x.scheme ∧ w.fragment = none ∧
      (x.authority.isSome → w.path = x.path) := by
  obtain ⟨-, w, hm, rfl⟩ :=
    (parse_of_notMem (sharp_notMem_toChars hx hf)).1 (toOption_eq_some.1 h)
  obtain ⟨rest, hs, hchars⟩ := toChars_of_parseMain hm
  obtain ⟨rest', hs', hfragment, -, hpath⟩ := parseMain_eq_ok hm
  obtain rfl : rest = rest' := congrArg Prod.snd (Except.ok.inj (hs.symm.trans hs'))
  have hread := splitScheme_append hx.scheme
    (Url.frontChars x ++ (x.path ++ Url.restChars x.query x.fragment))
  rw [← Url.toChars_eq, hs] at hread
  obtain ⟨hscheme, rfl⟩ := Prod.mk.inj (Except.ok.inj hread)
  rw [withFragment_self hfragment]
  refine ⟨?_, hscheme, hfragment, fun ha => ?_⟩
  · rw [hchars, hscheme, Url.toChars_eq]
    simp [schemePart]
  · obtain ⟨a, ha⟩ := Option.isSome_iff_exists.1 ha
    have hauthority := hx.place.authority_chars ha
    have hslash : '/' ∉ a.toChars := fun hm => absurd (hauthority '/' hm).2.1 (by decide)
    have hquery : '?' ∉ '/' :: '/' :: (a.toChars ++ x.path) := by
      simp only [List.mem_cons, List.mem_append, not_or]
      exact ⟨by decide, by decide, fun hm => absurd (hauthority '?' hm).2.2 (by decide),
        fun hm => absurd (hx.place.endsPath '?' hm) (by decide)⟩
    have hhead : x.path = [] ∨ x.path.head? = some '/' := by
      refine hx.place.path.imp_right ?_
      rintro ⟨kind, hp⟩
      obtain ⟨body, hbody⟩ := Url.exists_body_of_isPath hp
      rw [hbody]
      rfl
    have hwritten : Url.frontChars x ++ (x.path ++ Url.restChars x.query x.fragment) =
        '/' :: '/' :: (a.toChars ++ x.path) ++ x.query.elim [] ('?' :: ·) := by
      rw [Url.frontChars, ha, Url.restChars, hf]
      simp
    rw [hwritten, splitOptional_fst_append hquery, splitAuthority_append hslash hhead] at hpath
    exact (Prod.mk.inj hpath).2.symm

/-! ## Accepted locators -/

/-- The reference that a URL without fragment is. -/
def IsUrl (w : Uri) : Prop :=
  ∃ x : Url, x.IsNormal ∧ x.fragment = none ∧ ofUrl? x = some w

/-- A reference that is a URL in its final form is in its normal form, too. -/
theorem normalize_of_ofUrl? (hx : x.IsNormal) (h : ofUrl? x = some w)
    (hchars : w.toChars = x.toChars) (hs : w.scheme.isSome)
    (hp : x.authority.isSome → removeDotSegments w.path = w.path) : w.normalize = w := by
  unfold Uri.normalize
  split
  · rfl
  rw [toUrl?, hchars]
  cases hparse : Url.parse x.toChars with
  | ok y =>
    obtain rfl := Url.eq_of_parse_toChars hx hparse
    rw [show (Except.ok y : Except Url.Refusal Url).toOption = some y from rfl, Option.bind_some, h]
    rfl
  | error e =>
    have ha : x.authority.isSome := by
      cases ha : x.authority with
      | some a => rfl
      | none =>
        rw [Url.parse_toChars_of_bare hx ha] at hparse
        cases hparse
    change ({ w with path := removeDotSegments w.path } : Uri) = w
    rw [hp ha]

theorem isResolved_path (hx : x.IsNormal) : removeDotSegments x.path = x.path := by
  rcases hx.place.path with hnil | ⟨kind, hp⟩
  · rw [hnil]
    rfl
  · exact Url.isResolved_of_isPath hp

theorem isWritable_escapeByte_append (b : UInt8) {text : List Char} (h : IsWritable text) :
    IsWritable (Percent.escapeByte b ++ text) := by
  have hb : b.toNat < 256 := b.toNat_lt
  have hhex : ∀ n < 16, CharClass.isHexDigit (Percent.hexUpper n) = true ∧
      isForbidden (Percent.hexUpper n) = false ∧ Percent.hexUpper n ≠ '%' := by
    decide
  obtain ⟨hhigh, hhighf, hhighp⟩ := hhex (b.toNat / 16) (by omega)
  obtain ⟨hlow, hlowf, hlowp⟩ := hhex (b.toNat % 16) (by omega)
  refine ⟨by decide, fun _ => ?_, hhighf, fun he => absurd he hhighp, hlowf,
    fun he => absurd he hlowp, h⟩
  change (CharClass.isHexDigit _ && CharClass.isHexDigit _) = true
  rw [hhigh, hlow]
  rfl

theorem isWritable_escapeChar_append (c : Char) {text : List Char} (h : IsWritable text) :
    IsWritable (Percent.escapeChar c ++ text) := by
  rw [Percent.escapeChar]
  induction String.utf8EncodeChar c with
  | nil => exact h
  | cons b more ih =>
    rw [List.flatMap_cons, List.append_assoc]
    exact isWritable_escapeByte_append b ih

/-- An escaped fragment can be written. -/
theorem isWritable_encodeFragment (pointer : List Char) :
    IsWritable (Reference.encodeFragment pointer) := by
  have hstays {c : Char} (hescape : Reference.escapedInFragment c = false)
      (hascii : c.toNat < 0x80) : isForbidden c = false ∧ c ≠ '%' := by
    revert hescape
    refine of_isAscii hascii ?_
    decide
  unfold Reference.encodeFragment
  induction pointer with
  | nil => trivial
  | cons c rest ih =>
    rw [Percent.encode, List.flatMap_cons, ← Percent.encode]
    split
    · exact isWritable_escapeChar_append c ih
    · rename_i hc
      simp only [Bool.or_eq_true, decide_eq_true_eq, not_or, Bool.not_eq_true, Nat.not_le] at hc
      obtain ⟨hforbidden, hpercent⟩ := hstays hc.1 hc.2
      exact ⟨hforbidden, fun he => absurd he hpercent, ih⟩

theorem stays_of_mem_escapeSigns :
    ∀ c ∈ Percent.escapeSigns, Percent.Stays Url.escapedInFragment c := by
  unfold Percent.Stays
  exact List.all_iff_forall_prop.1 (by decide)

theorem stays_encodeFragment (pointer : List Char) :
    ∀ c ∈ Reference.encodeFragment pointer, Percent.Stays Url.escapedInFragment c := by
  intro c hc
  rcases Percent.mem_encode hc with hsign | ⟨-, hescape, hascii⟩
  · exact stays_of_mem_escapeSigns c hsign
  · refine ⟨?_, hascii⟩
    revert hescape
    refine of_isAscii hascii ?_
    decide

/-- A URL with another fragment is its own normal form, too. -/
theorem ofUrl?_with_fragment (hx : x.IsNormal) (hf : x.fragment = none) (hw : ofUrl? x = some w)
    {fragment : List Char} (hs : ∀ c ∈ fragment, Percent.Stays Url.escapedInFragment c)
    (hwritable : IsWritable fragment) (hsharp : '#' ∉ fragment) :
    ofUrl? { x with fragment := some fragment } = some (w.withFragment (some fragment)) ∧
      (w.withFragment (some fragment)).normalize = w.withFragment (some fragment) := by
  obtain ⟨hchars, hscheme, hbare, hp⟩ := ofUrl?_spec hx hf hw
  have hx' : { x with fragment := some fragment }.IsNormal :=
    ⟨hx.scheme, hx.place.withQueryFragment _ _, hx.rest.query, fun f hf => by
      rwa [← Option.some.inj hf]⟩
  have htext := toChars_with_fragment hf fragment
  have hw' : ofUrl? { x with fragment := some fragment } =
      some (w.withFragment (some fragment)) := by
    rw [ofUrl?, htext, toOption_parse_append (sharp_notMem_toChars hx hf) hwritable hsharp,
      ← ofUrl?, hw]
    rfl
  refine ⟨hw', normalize_of_ofUrl? hx' hw' ?_ ?_ fun ha => ?_⟩
  · rw [htext, toChars_withFragment_some, withFragment_self hbare, hchars]
  · rw [show (w.withFragment (some fragment)).scheme = w.scheme from rfl, hscheme]
    rfl
  · change removeDotSegments w.path = w.path
    rw [hp ha]
    exact isResolved_path hx

/-- **An accepted locator is its own normal form**, with every pointer. -/
theorem IsUrl.isStable (h : w.IsUrl) : (⟨w⟩ : Reference).IsStable := by
  obtain ⟨x, hx, hf, hw⟩ := h
  obtain ⟨hchars, hs, hbare, hp⟩ := ofUrl?_spec hx hf hw
  refine ⟨hbare, ?_, normalize_of_ofUrl? hx hw hchars ?_ fun ha => ?_, fun pointer => ?_⟩
  · rw [hchars]
    exact sharp_notMem_toChars hx hf
  · rw [hs]
    rfl
  · rw [hp ha]
    exact isResolved_path hx
  · exact (ofUrl?_with_fragment hx hf hw (stays_encodeFragment pointer)
      (isWritable_encodeFragment pointer)
      fun hm => (Reference.isCleanText_encodeFragment pointer _ hm).2 rfl).2

/-- The text of a clean reference with a scheme and a hierarchy. -/
theorem toChars_of_hierarchical (hs : u.scheme = some scheme) (ho : u.isOpaque = false) :
    ∃ rest, (u.withFragment none).toChars = scheme ++ ':' :: '/' :: rest := by
  obtain ⟨scheme', authority, path, query, fragment⟩ := u
  obtain rfl : scheme' = some scheme := hs
  cases authority with
  | some a => exact ⟨_, by simp [toChars, withFragment, part]; rfl⟩
  | none =>
    have hhead : path.head? = some '/' := by simpa [isOpaque] using ho
    obtain ⟨body, rfl⟩ := List.head?_eq_some_iff.1 hhead
    exact ⟨_, by simp [toChars, withFragment, part]; rfl⟩

theorem of_isForbidden {c : Char} (h : isForbidden c = false) : 0x20 < c.toNat ∧ c ≠ '|' := by
  by_cases hascii : c.toNat < 0x80
  · revert h
    refine of_isAscii hascii ?_
    decide
  · refine ⟨by omega, fun he => hascii ?_⟩
    rw [he]
    decide

/-- What is accepted is accepted without its fragment, too, and is in its final form. -/
theorem exists_bare_of_toUrl? (hu : u.IsClean) (hs : u.scheme = some scheme)
    (ho : u.isOpaque = false) (hx : u.toUrl? = some x) :
    ∃ y : Url, y.IsNormal ∧ y.fragment = none ∧
      x = { y with fragment := u.fragment.map (Percent.encode Url.escapedInFragment) } ∧
      (u.withFragment none).toUrl? = some y := by
  obtain ⟨rest, hrest⟩ := toChars_of_hierarchical hs ho
  have hclean := hu.chars
  rw [hrest] at hclean
  have hscheme := hu.scheme scheme hs
  have hblank : ∀ c ∈ scheme ++ ':' :: '/' :: rest, 0x20 < c.toNat := fun c hc =>
    (of_isForbidden (hclean c hc).1).1
  have hbody : IsCleanText ('/' :: rest) := fun c hc => hclean c (by simp [List.mem_cons.1 hc])
  have hbar : '|' ∉ rest := fun hm =>
    (of_isForbidden (hbody _ (List.mem_cons_of_mem _ hm)).1).2 rfl
  have hsharp : '#' ∉ '/' :: rest := fun hm => (hbody _ hm).2 rfl
  have hreading {y : Url} (hy : Url.parse (scheme ++ ':' :: '/' :: rest) = .ok y) :=
    Url.isReading_of_parse hscheme hblank hbar hy
  rw [show (u.withFragment none).toUrl? =
    (Url.parse (scheme ++ ':' :: '/' :: rest)).toOption by rw [toUrl?, hrest]]
  cases hf : u.fragment with
  | none =>
    rw [withFragment_self hf] at hrest
    rw [toUrl?, hrest] at hx
    obtain ⟨hn, hbare⟩ := hreading (toOption_eq_some.1 hx)
    refine ⟨x, hn, hbare hsharp, ?_, hx⟩
    rw [Option.map_none, ← hbare hsharp]
  | some f =>
    have hfragment := hu.fragment
    rw [hf, Option.getD_some] at hfragment
    have hchars : u.toChars = scheme ++ ':' :: '/' :: rest ++ '#' :: f := by
      rw [← hrest, ← toChars_withFragment_some, ← hf]
      rfl
    rw [toUrl?, hchars, toOption_eq_some] at hx
    obtain ⟨y, hy, rfl⟩ := Url.parse_append_fragment hscheme hblank
      (fun c hc => (of_isForbidden (hfragment c hc).1).1)
      (fun hm => hsharp (List.mem_cons_of_mem _ hm)) hx
    obtain ⟨hn, hbare⟩ := hreading hy
    exact ⟨y, hn, hbare hsharp, rfl, toOption_eq_some.2 hy⟩

/-- The reference that a URL is, without its fragment. -/
theorem ofUrl?_bare (hx : x.IsNormal) (hf : x.fragment = none) {fragment : Option (List Char)}
    (hw : ofUrl? { x with fragment } = some w) : ofUrl? x = some (w.withFragment none) := by
  cases fragment with
  | none =>
    rw [show { x with fragment := none } = x by rw [← hf]] at hw
    rw [withFragment_self (ofUrl?_spec hx hf hw).2.2.1, hw]
  | some f =>
    have hparse := toOption_eq_some.1 hw
    rw [toChars_with_fragment hf f] at hparse
    rw [ofUrl?, parse_of_append (sharp_notMem_toChars hx hf) hparse]
    rfl

/-- **A reference is accepted without its fragment, too**, and as a URL in its final form. -/
theorem isUrl_of_toUrl? (hu : u.IsClean) (hs : u.scheme = some scheme) (ho : u.isOpaque = false)
    (h : u.toUrl?.bind ofUrl? = some w) :
    (u.withFragment none).toUrl?.bind ofUrl? = some (w.withFragment none) ∧
      (w.withFragment none).IsUrl := by
  obtain ⟨x, hx, hw⟩ := Option.bind_eq_some_iff.1 h
  obtain ⟨y, hn, hbare, rfl, hy⟩ := exists_bare_of_toUrl? hu hs ho hx
  have hyw := ofUrl?_bare hn hbare hw
  refine ⟨?_, y, hn, hbare, hyw⟩
  rw [hy]
  exact hyw

end Uri

namespace Reference

variable {r : Reference}

theorem ofUri_of_scheme {v w : Uri} (h : v.normalize = w) (hs : w.scheme.isSome) :
    ofUri v = ⟨w⟩ := by
  obtain ⟨scheme, hscheme⟩ := Option.isSome_iff_exists.1 hs
  have hcolon : ':' ∈ w.toChars := by
    rw [Uri.toChars_eq, hscheme]
    simp [Uri.schemePart]
  unfold ofUri
  rw [h]
  refine if_neg fun hchars => ?_
  rcases hchars with hnil | hsharp
  · rw [hnil] at hcolon
    cases hcolon
  · rw [hsharp] at hcolon
    exact absurd hcolon (by decide)

theorem isStable_of_isOpaque {v : Uri} (hv : v.IsClean) (hf : v.fragment = none)
    (ho : v.isOpaque = true) : (⟨v⟩ : Reference).IsStable where
  bare := hf
  plain hm := (hv.chars '#' (by rwa [Uri.withFragment_self hf])).2 rfl
  normal := Uri.normalize_of_isOpaque ho
  pointed _ := Uri.normalize_of_isOpaque ho

/-- A reference with a resolved path names a stable locator, accepted as a URL or not. -/
theorem isStable_ofUri_of_scheme {v : Uri} {scheme : List Char} (hv : v.IsClean)
    (hs : v.scheme = some scheme) (hf : v.fragment = none)
    (hp : Uri.removeDotSegments v.path = v.path) : (ofUri v).IsStable := by
  have hsome : v.scheme.isSome := by rw [hs]; rfl
  cases ho : v.isOpaque with
  | true =>
    rw [ofUri_of_scheme (Uri.normalize_of_isOpaque ho) hsome]
    exact isStable_of_isOpaque hv hf ho
  | false =>
    cases hw : v.toUrl?.bind Uri.ofUrl? with
    | some w =>
      obtain ⟨hbare, hurl⟩ := Uri.isUrl_of_toUrl? hv hs ho hw
      rw [Uri.withFragment_self hf, hw] at hbare
      rw [← Option.some.inj hbare] at hurl
      have hv : v.normalize = w := by rw [Uri.normalize_of_hierarchical ho hsome, hw]; rfl
      rw [ofUri_congr (hv.trans hurl.isStable.normal.symm), hurl.isStable.ofUri_uri]
      exact hurl.isStable
    | none =>
      have hself : v.normalize = v := by
        rw [Uri.normalize_of_hierarchical ho hsome, hw, Option.getD_none, hp]
      rw [ofUri_of_scheme hself hsome]
      refine ⟨hf, fun hm => (hv.chars '#' (by rwa [Uri.withFragment_self hf])).2 rfl, hself,
        fun pointer => ?_⟩
      have hpointed : (v.withFragment (some (encodeFragment pointer))).toUrl?.bind Uri.ofUrl? =
          none := by
        refine Option.eq_none_iff_forall_ne_some.2 fun w hw' => ?_
        obtain ⟨hbare, -⟩ := Uri.isUrl_of_toUrl? (isClean_withPointer hv pointer) hs ho hw'
        rw [show (v.withFragment (some (encodeFragment pointer))).withFragment none =
          v.withFragment none from rfl, Uri.withFragment_self hf, hw] at hbare
        cases hbare
      have hnormal := Uri.normalize_of_hierarchical
        (u := v.withFragment (some (encodeFragment pointer))) ho hsome
      rw [hpointed, Option.getD_none] at hnormal
      refine hnormal.trans ?_
      change ({ v with path := Uri.removeDotSegments v.path } : Uri).withFragment _ = _
      rw [hp]
      rfl

theorem uri_ofUri {u : Uri} (h : (ofUri u).scheme.isSome) : (ofUri u).uri = u.normalize := by
  unfold ofUri at h ⊢
  simp only at h ⊢
  split at h
  · cases h
  · rename_i hne
    rw [if_neg hne]

/-- **The locator of every normal reference is stable.** -/
theorem isStable_toLocator (h : r.IsNormal) : r.toLocator.IsStable := by
  cases hs : r.scheme with
  | none => exact isStable_toLocator_of_relative h hs
  | some scheme =>
    obtain ⟨u, hu, rfl⟩ := h
    have huri : (ofUri u).uri = u.normalize := uri_ofUri (by rw [hs]; rfl)
    have hscheme : u.normalize.scheme = some scheme := huri ▸ hs
    rw [toLocator, huri]
    cases ho : u.isOpaque with
    | true =>
      rw [Uri.normalize_of_isOpaque ho] at hscheme ⊢
      have hsome : (u.withFragment none).scheme.isSome := by
        rw [show (u.withFragment none).scheme = some scheme from hscheme]
        rfl
      rw [ofUri_of_scheme (Uri.normalize_of_isOpaque (u := u.withFragment none) ho) hsome]
      exact isStable_of_isOpaque hu.bare rfl ho
    | false =>
      cases hs' : u.scheme with
      | none =>
        rw [Uri.normalize_of_scheme_eq_none hs'] at hscheme
        rw [hs'] at hscheme
        cases hscheme
      | some scheme' =>
        have hsome : u.scheme.isSome := by rw [hs']; rfl
        rw [Uri.normalize_of_hierarchical ho hsome]
        cases hw : u.toUrl?.bind Uri.ofUrl? with
        | some w =>
          have hstable := (Uri.isUrl_of_toUrl? hu hs' ho hw).2.isStable
          rw [Option.getD_some, hstable.ofUri_uri]
          exact hstable
        | none =>
          have hclean : ({ u with path := Uri.removeDotSegments u.path } : Uri).IsClean :=
            ⟨hu.1, hu.2, Uri.isCleanText_removeDotSegments hu.3, hu.4, hu.5⟩
          exact isStable_ofUri_of_scheme hclean.bare hs' rfl (Uri.removeDotSegments_idem _)

end Reference

end JsonSchema
