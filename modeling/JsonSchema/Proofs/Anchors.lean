import JsonSchema.Proofs.Alias
import Mathlib

/-!
# References within a document

A reference that is a fragment alone leads to a place of the document that its base belongs to, as
long as the base anchors it. Bases without scheme do, and so do accepted URLs and entries of
archives. Opaque bases do not.

* `Percent.writable_induction`: texts that can be written, escape by escape.
* `Reference.IsLocal`: a reference that is a fragment alone.
* `Reference.Anchors`: a base that anchors references.
* `Reference.Anchors.leadsTo`: where a fragment leads from such a base.
-/

namespace JsonSchema

/-! ## Texts that can be written -/

namespace Percent

variable {text : List Char}

theorem toNat_lt_of_isHexDigit {c : Char} (h : CharClass.isHexDigit c = true) :
    c.toNat < 0x80 := by
  simp only [CharClass.isHexDigit, CharClass.hexDigit?, CharClass.isAsciiDigit, Bool.and_eq_true,
    decide_eq_true_eq, Char.le_def, UInt32.le_iff_toNat_le] at h
  split at h
  · rename_i hc
    exact Nat.lt_of_le_of_lt hc.2 (by decide)
  split at h
  · rename_i hc
    exact Nat.lt_of_le_of_lt hc.2 (by decide)
  split at h
  · rename_i hc
    exact Nat.lt_of_le_of_lt hc.2 (by decide)
  · cases h

theorem stays_of_isHexDigit {c : Char} (h : CharClass.isHexDigit c = true) :
    Stays Url.escapedInFragment c := by
  have hascii := toNat_lt_of_isHexDigit h
  refine ⟨?_, hascii⟩
  revert h
  refine Uri.of_isAscii hascii ?_
  decide

theorem encode_cons_of_stays {needsEscape : Char → Bool} {c : Char} (h : Stays needsEscape c)
    (rest : List Char) : encode needsEscape (c :: rest) = c :: encode needsEscape rest := by
  rw [← List.singleton_append, encode_append, encode_of_stays (by simpa using h)]
  rfl

/-- A text that can be written consists of escapes and of characters other than their sign. -/
@[elab_as_elim]
theorem writable_induction {motive : (text : List Char) → Uri.IsWritable text → Prop}
    (nil : motive [] trivial)
    (escape : ∀ a b rest (hw : Uri.IsWritable ('%' :: a :: b :: rest)) (hr : Uri.IsWritable rest),
      CharClass.isHexDigit a = true → CharClass.isHexDigit b = true → motive rest hr →
      motive ('%' :: a :: b :: rest) hw)
    (char : ∀ c rest (hw : Uri.IsWritable (c :: rest)) (hr : Uri.IsWritable rest),
      c ≠ '%' → motive rest hr → motive (c :: rest) hw)
    (hw : Uri.IsWritable text) : motive text hw := by
  induction hn : text.length using Nat.strongRecOn generalizing text with
  | ind n ih =>
    cases text with
    | nil => exact nil
    | cons c rest =>
      rw [List.length_cons] at hn
      by_cases hc : c = '%'
      · subst hc
        have hhex := hw.2.1 rfl
        match rest, hw, hn, hhex with
        | a :: b :: more, hw, hn, hhex =>
          obtain ⟨ha, hb⟩ := Bool.and_eq_true_iff.1 hhex
          have hmore : Uri.IsWritable more := hw.2.2.2.2.2.2
          refine escape a b more hw hmore ha hb (ih _ ?_ hmore rfl)
          rw [← hn, List.length_cons, List.length_cons]
          omega
      · exact char c rest hw hw.2.2 hc (ih _ (by omega) hw.2.2 rfl)

/-- Escaping a text that can be written leaves what the text stands for. -/
theorem decode_encode_of_isWritable (h : Uri.IsWritable text) :
    decode (encode Url.escapedInFragment text) = decode text := by
  have hsign : Stays Url.escapedInFragment '%' := ⟨by decide, by decide⟩
  have hbytes : decodeBytes (encode Url.escapedInFragment text) = decodeBytes text := by
    induction h using writable_induction with
    | nil => rfl
    | escape a b rest _ _ ha hb ih =>
      obtain ⟨x, hx⟩ := Option.isSome_iff_exists.1 ha
      obtain ⟨y, hy⟩ := Option.isSome_iff_exists.1 hb
      rw [encode_cons_of_stays hsign, encode_cons_of_stays (stays_of_isHexDigit ha),
        encode_cons_of_stays (stays_of_isHexDigit hb)]
      simp only [decodeBytes, hx, hy, ih]
    | char c rest _ _ hc ih =>
      rw [decodeBytes_cons hc, encode, List.flatMap_cons, ← encode]
      split
      · rw [escapeChar, decodeBytes_flatMap_escapeByte, ih]
      · rw [List.singleton_append, decodeBytes_cons hc, ih]
  rw [decode, hbytes, decode]

/-- Escaping keeps a text one that can be written. -/
theorem isWritable_encode (h : Uri.IsWritable text) :
    Uri.IsWritable (encode Url.escapedInFragment text) := by
  have hsign : Stays Url.escapedInFragment '%' := ⟨by decide, by decide⟩
  have hdigit {c : Char} (hc : CharClass.isHexDigit c = true) : c ≠ '%' := by
    rintro rfl
    exact absurd hc (by decide)
  induction h using writable_induction with
  | nil => trivial
  | escape a b rest hw _ ha hb ih =>
    rw [encode_cons_of_stays hsign, encode_cons_of_stays (stays_of_isHexDigit ha),
      encode_cons_of_stays (stays_of_isHexDigit hb)]
    exact ⟨hw.1, fun _ => hw.2.1 rfl, hw.2.2.1, fun he => absurd he (hdigit ha), hw.2.2.2.2.1,
      fun he => absurd he (hdigit hb), ih⟩
  | char c rest hw _ hc ih =>
    rw [encode, List.flatMap_cons, ← encode]
    split
    · exact Uri.isWritable_escapeChar_append c ih
    · exact ⟨hw.1, fun he => absurd he hc, ih⟩

/-- The escaped form of a text that can be written is final. -/
theorem stays_encode (text : List Char) :
    ∀ c ∈ encode Url.escapedInFragment text, Stays Url.escapedInFragment c := by
  intro c hc
  rcases mem_encode hc with hsign | ⟨-, hs⟩
  · exact Uri.stays_of_mem_escapeSigns c hsign
  · exact hs

theorem sharp_notMem_encode (h : '#' ∉ text) : '#' ∉ encode Url.escapedInFragment text := by
  intro hm
  rcases mem_encode hm with hsign | ⟨hm, -⟩
  · exact absurd hsign (by decide)
  · exact h hm

end Percent

/-! ## URLs with fragments -/

namespace Url

variable {x : Url} {fragment : List Char}

theorem join_fragment (hf : ∀ c ∈ fragment, 0x20 < c.toNat) :
    x.join ('#' :: fragment) = .ok (x.withFragmentText fragment) := by
  have hclean : clean ('#' :: fragment) = '#' :: fragment :=
    clean_of_blank (List.forall_mem_cons.2 ⟨by decide, hf⟩)
  rw [join, parseWith, hclean]
  rfl

theorem join_nil (ho : x.isOpaque = false) : x.join [] = .ok { x with fragment := none } := by
  rw [join, parseWith, show clean [] = [] from rfl, show splitScheme [] = none from rfl]
  simp only [ho, Bool.false_eq_true, if_false]
  split
  · rfl
  · rfl

theorem isOpaque_of_isNormal (hx : x.IsNormal) : x.isOpaque = false := by
  unfold isOpaque
  cases hx.place with
  | file host _ ha => rw [ha]; rfl
  | hosted a _ ha => rw [ha]; rfl
  | bare _ ha hp =>
    obtain ⟨body, hbody⟩ := exists_body_of_isPath hp
    rw [ha, hbody]
    rfl

/-- A URL without authority is accepted with every fragment. -/
theorem isSome_parse_of_bare (hx : x.IsNormal) (ha : x.authority = none)
    (hf : ∀ c ∈ fragment, 0x20 < c.toNat) :
    (parse { x with fragment := some fragment }.toChars).toOption.isSome := by
  have hchars : ∀ c ∈ { x with fragment := some fragment }.toChars, 0x20 < c.toNat := by
    rw [toChars_eq_append]
    exact List.forall_mem_append.2 ⟨fun c hc => (hx.isMain c hc).1,
      List.forall_mem_cons.2 ⟨by decide, hf⟩⟩
  rw [toChars_eq] at hchars ⊢
  rw [parse_append (by exact hx.scheme) hchars]
  cases hx.place with
  | file host _ ha' => rw [ha] at ha'; cases ha'
  | hosted a _ ha' => rw [ha] at ha'; cases ha'
  | bare hk _ hp =>
    simp only [hk]
    rw [if_neg (take_frontChars (by exact ha) (by exact hp))]
    rfl

end Url

/-! ## Texts that are read back -/

namespace Uri

variable {u : Uri} {text : List Char}

theorem isWritable_of_forall (h : ∀ c ∈ text, isForbidden c = false ∧ c ≠ '%') :
    IsWritable text := by
  induction text with
  | nil => trivial
  | cons c rest ih =>
    obtain ⟨hc, hrest⟩ := List.forall_mem_cons.1 h
    exact ⟨hc.1, fun he => absurd he hc.2, ih hrest⟩

theorem isWritable_of_isScheme {scheme : List Char} (h : IsScheme scheme) : IsWritable scheme :=
  isWritable_of_forall (forall_mem_of_isScheme h (by decide))

/-- **The text of a reference with a scheme is read back**, without its fragment. -/
theorem parse_toChars_of_parse (h : parse text = .ok u) (hs : u.scheme.isSome) :
    parse (u.withFragment none).toChars = .ok (u.withFragment none) := by
  obtain ⟨scheme, hscheme⟩ := Option.isSome_iff_exists.1 hs
  have hclean := isClean_of_parse h
  have hname := hclean.scheme scheme hscheme
  have hsharp : '#' ∉ (u.withFragment none).toChars := fun hm => (hclean.chars _ hm).2 rfl
  obtain ⟨hw, -, w, hm, rfl⟩ := parse_eq_ok_iff.1 h
  obtain ⟨rest, hsplit, hchars⟩ := toChars_of_parseMain hm
  obtain ⟨-, -, hbare, -⟩ := parseMain_eq_ok hm
  have hwscheme : w.scheme = some scheme := hscheme
  have hself : (w.withFragment (splitOptional '#' text).2).withFragment none = w :=
    withFragment_self hbare
  rw [hself] at hsharp ⊢
  rw [hwscheme] at hsplit hchars
  have hchars : w.toChars = scheme ++ ':' :: rest := by simpa [schemePart] using hchars
  -- The text is the one that was read, but for the letters of the scheme.
  have hsame : parseMain w.toChars = parseMain (splitOptional '#' text).1 := by
    rw [hchars]
    unfold parseMain
    rw [splitScheme_append hname, hsplit]
  refine (parse_of_notMem hsharp).2 ⟨?_, w, hsame.trans hm, hself.symm⟩
  have hrest : IsWritable rest := by
    have hmain := (isWritable_splitOptional hw).1
    rcases splitScheme_eq_ok hsplit with ⟨he, -⟩ | ⟨name, -, -, he⟩
    · cases he
    · rw [he] at hmain
      exact ((isWritable_append_cons (by decide) (by decide) (by decide)).1 hmain).2
  rw [hchars]
  exact (isWritable_append_cons (by decide) (by decide) (by decide)).2
    ⟨isWritable_of_isScheme hname, hrest⟩

theorem isOpaque_of_removeDotSegments
    (h : ({ u with path := removeDotSegments u.path } : Uri).isOpaque = true) :
    u.isOpaque = true := by
  revert h
  unfold isOpaque
  cases hp : u.path with
  | nil => exact id
  | cons c rest =>
    by_cases hc : c = '/'
    · subst hc
      simp [removeDotSegments]
    · simpa [hc] using fun hs ha _ => ⟨hs, ha⟩

/-- A normal form that is opaque is that of an opaque reference, or one of a URL. -/
theorem opaque_or_url_of_normalize (h : u.normalize.isOpaque = true) :
    u.isOpaque = true ∨ ∃ x, ofUrl? x = some u.normalize := by
  cases ho : u.isOpaque with
  | true => exact .inl rfl
  | false =>
    refine .inr ?_
    have hrelative : ({ u with path := removeDotSegments u.path } : Uri).isOpaque ≠ true :=
      fun hr => by rw [isOpaque_of_removeDotSegments hr] at ho; cases ho
    cases hs : u.scheme with
    | none => exact absurd (normalize_of_scheme_eq_none hs ▸ h) hrelative
    | some scheme =>
      have hnormal := normalize_of_hierarchical ho (by rw [hs]; rfl)
      cases hw : u.toUrl?.bind ofUrl? with
      | none => exact absurd (by rw [hnormal, hw] at h; exact h) hrelative
      | some w =>
        obtain ⟨x, -, hx⟩ := Option.bind_eq_some_iff.1 hw
        exact ⟨x, by rw [hnormal, hw, hx]; rfl⟩

end Uri

namespace Reference

variable {n base r : Reference} {fragment : List Char}

/-! ## References that are fragments -/

/-- A reference that is a fragment alone, one that is left out if it is empty. -/
structure IsLocal (r : Reference) (fragment : List Char) : Prop where
  writable : Uri.IsWritable fragment
  plain : '#' ∉ fragment
  uri : r.uri = .withFragment .empty (some fragment) ∨ fragment = [] ∧ r.uri = .empty

theorem isLocal_of_parse (h : parse (String.ofList ('#' :: fragment)) = .ok r) :
    r.IsLocal fragment := by
  obtain ⟨u, hu, rfl⟩ := exists_uri_of_parse h
  rw [String.toList_ofList] at hu
  obtain ⟨⟨-, hw⟩, hf, w, hm, rfl⟩ := (Uri.parse_append List.not_mem_nil).1 hu
  obtain rfl : .empty = w := Except.ok.inj hm
  refine ⟨hw, hf, ?_⟩
  unfold ofUri
  simp only
  split
  · rename_i hc
    refine .inr ⟨?_, rfl⟩
    rcases hc with hnil | hsharp
    · cases hnil
    · exact List.tail_eq_of_cons_eq hsharp
  · exact .inl rfl

namespace IsLocal

theorem scheme (h : r.IsLocal fragment) : r.scheme = none := by
  rw [Reference.scheme]
  rcases h.uri with hu | ⟨-, hu⟩ <;> rw [hu] <;> rfl

/-- The fragment as it was written; the text is the same if it was left out. -/
theorem fragment_cases (h : r.IsLocal fragment) :
    ∃ written, r.uri = .withFragment .empty written ∧ written.getD [] = fragment ∧
      (written = some fragment ∨ written = none) := by
  rcases h.uri with hu | ⟨rfl, hu⟩
  · exact ⟨_, hu, rfl, .inl rfl⟩
  · exact ⟨none, hu, rfl, .inr rfl⟩

end IsLocal

/-- A reference leads to the text of a fragment in the document of a locator. -/
structure LeadsTo (r n : Reference) (fragment : List Char) : Prop where
  toLocator : r.toLocator = n
  fragment : r.fragment = .ofText (Percent.decode fragment)

/-- A stable locator with a fragment leads into its own document. -/
theorem IsStable.leadsTo (h : n.IsStable) {written : Option (List Char)}
    (hw : (n.uri.withFragment written).normalize = n.uri.withFragment written) :
    (ofUri (n.uri.withFragment written)).LeadsTo n (written.getD []) := by
  have hchars : (n.uri.withFragment written).toChars = [] ∨
      (n.uri.withFragment written).toChars = ['#'] → n = empty ∧ written.getD [] = [] := by
    cases written with
    | none =>
      rw [Uri.withFragment_self h.bare]
      rintro (hnil | hsharp)
      · exact ⟨eq_empty_of_toChars_eq_nil hnil, rfl⟩
      · exact absurd (by rw [hsharp]; exact List.mem_singleton_self _) h.plain
    | some f =>
      rw [Uri.toChars_withFragment_some, Uri.withFragment_self h.bare]
      rintro (hnil | hsharp)
      · exact absurd hnil (by simp)
      · obtain ⟨hnil, hf⟩ : n.uri.toChars = [] ∧ f = [] := by
          cases hn : n.uri.toChars with
          | nil => rw [hn] at hsharp; exact ⟨rfl, List.tail_eq_of_cons_eq hsharp⟩
          | cons c rest => rw [hn] at hsharp; simp at hsharp
        exact ⟨eq_empty_of_toChars_eq_nil hnil, hf⟩
  unfold ofUri
  rw [hw]
  simp only
  split
  · rename_i hc
    obtain ⟨rfl, hf⟩ := hchars hc
    rw [hf]
    exact ⟨h.toLocator, rfl⟩
  · exact ⟨by rw [Reference.toLocator]; exact h.toLocator, rfl⟩

/-! ## Bases -/

/-- The path of an archive and the entry in it, for a base that resolves references within the
archive. -/
def entry? (base : Reference) : Option (List Char × Uri) := do
  if !base.scheme.any archiveSchemes.contains then none
  let (archive, entry) ← Text.cut? '!' base.locator
  return (archive, ← (Uri.parse entry).toOption)

theorem resolveInArchive?_eq (base other : Reference) :
    resolveInArchive? base other = base.entry?.bind fun (archive, entry) =>
      (Uri.parse (archive ++ '!' :: (entry.resolve other.uri).toChars)).toOption := by
  unfold resolveInArchive? entry?
  split
  · rfl
  · simp only [Option.bind_eq_bind]
    cases Text.cut? '!' base.locator with
    | none => rfl
    | some p =>
      simp only [Option.bind_some]
      cases (Uri.parse p.2).toOption <;> rfl

/-- A reference is opaque, or a URL that is itself its final form. -/
def IsFinal (r : Reference) : Prop :=
  r.uri.isOpaque = true ∨ r.uri.toUrl?.bind Uri.ofUrl? = some r.uri

/-- A base that has a path to resolve references in: one without scheme, one that is accepted as a
URL, or an entry of an archive. -/
inductive Anchors (base : Reference) : Prop
  | relative (hs : base.scheme = none)
  | url (ho : base.uri.isOpaque = false) (he : base.entry? = none)
      (hu : (base.uri.toUrl?.bind Uri.ofUrl?).isSome)
  | entry {archive : List Char} {entry : Uri} (hn : base.IsFinal)
      (he : base.entry? = some (archive, entry)) (hs : entry.scheme = none)

/-- A fragment alone is resolved to the base with this fragment. -/
theorem uri_resolve_of_isLocal {u : Uri} {written : Option (List Char)} (hs : u.scheme = none)
    (hr : r.uri = .withFragment .empty written) : u.resolve r.uri = u.withFragment written := by
  rw [hr]
  simp [Uri.resolve, Uri.isOpaque, hs, Uri.mergeRelative, Uri.withFragment, Uri.empty]

theorem resolve_of_isLocal {written : Option (List Char)} (hs : base.scheme = none)
    (hr : r.uri = .withFragment .empty written) :
    base.resolve r = ofUri (base.uri.withFragment written) := by
  have hrs : r.scheme = none := congrArg Uri.scheme hr
  rw [resolve_of_relative hs hrs, ← uri_resolve_of_isLocal hs hr]
  exact congrArg ofUri (Uri.resolve_of_scheme_eq_none hs hrs).symm

theorem LeadsTo.of_relative (hb : base.IsNormal) (hs : base.scheme = none)
    (hr : r.IsLocal fragment) : (base.resolve r).LeadsTo base.toLocator fragment := by
  obtain ⟨written, hu, rfl, -⟩ := hr.fragment_cases
  have huri := uri_toLocator_of_relative hb hs
  have hnormal : (base.toLocator.uri.withFragment written).normalize =
      base.toLocator.uri.withFragment written := by
    rw [huri, Uri.normalize_of_scheme_eq_none (by exact hs)]
    simp only [Uri.withFragment, Uri.removeDotSegments_idem]
  have hsame : ofUri (base.uri.withFragment written) =
      ofUri (base.toLocator.uri.withFragment written) := by
    refine ofUri_congr ?_
    rw [hnormal, huri, Uri.normalize_of_scheme_eq_none (by exact hs)]
    rfl
  rw [resolve_of_isLocal hs hu, hsame]
  exact (isStable_toLocator_of_relative hb hs).leadsTo hnormal

theorem uri_resolve_of_toUrl? {u v : Uri} {x : Url} (ho : u.isOpaque = false)
    (hu : u.scheme.isSome) (hv : v.scheme = none) (hx : u.toUrl? = some x) :
    u.resolve v = ((x.join v.toChars).toOption.bind Uri.ofUrl?).getD v.normalize := by
  unfold Uri.resolve
  simp [hv, ho, hu, hx]

/-- A URL that is joined with a fragment is the same URL with this fragment, in its final form. -/
theorem exists_join_of_isLocal {y : Url} {w : Uri} (hy : y.IsNormal) (hbare : y.fragment = none)
    (hw : Uri.ofUrl? y = some w) (former : Option (List Char)) (hr : r.IsLocal fragment) :
    ∃ written, ({ y with fragment := former }.join r.uri.toChars).toOption.bind Uri.ofUrl? =
        some (w.withFragment written) ∧
      (w.withFragment written).normalize = w.withFragment written ∧
      Percent.decode (written.getD []) = Percent.decode fragment := by
  obtain ⟨written, hu, hf, rfl | rfl⟩ := hr.fragment_cases
  · have hblank : ∀ c ∈ fragment, 0x20 < c.toNat := fun c hc =>
      (Uri.of_isForbidden (Uri.isForbidden_of_mem hr.writable hc)).1
    obtain ⟨hread, hnormal⟩ := Uri.ofUrl?_with_fragment hy hbare hw
      (Percent.stays_encode fragment) (Percent.isWritable_encode hr.writable)
      (Percent.sharp_notMem_encode hr.plain)
    refine ⟨_, ?_, hnormal, Percent.decode_encode_of_isWritable hr.writable⟩
    rw [hu]
    exact (congrArg (Option.bind · Uri.ofUrl?) (Uri.toOption_eq_some.2
      (Url.join_fragment hblank))).trans hread
  · have hopaque : { y with fragment := former }.isOpaque = false := by
      change y.isOpaque = false
      exact Url.isOpaque_of_isNormal hy
    have hself : w.withFragment none = w :=
      Uri.withFragment_self (Uri.ofUrl?_spec hy hbare hw).2.2.1
    have hurl : w.IsUrl := ⟨y, hy, hbare, hw⟩
    refine ⟨none, ?_, by rw [hself, hurl.isStable.normal], by rw [← hf]⟩
    rw [hu, hself, ← hw]
    refine (congrArg (Option.bind · Uri.ofUrl?) (Uri.toOption_eq_some.2
      (Url.join_nil hopaque))).trans ?_
    rw [← hbare]
    rfl

/-- An accepted URL anchors references. -/
theorem LeadsTo.of_url (hb : base.IsNormal) (ho : base.uri.isOpaque = false)
    (he : base.entry? = none) (hu : (base.uri.toUrl?.bind Uri.ofUrl?).isSome)
    (hr : r.IsLocal fragment) : (base.resolve r).LeadsTo base.toLocator fragment := by
  obtain ⟨w, hw⟩ := Option.isSome_iff_exists.1 hu
  obtain ⟨x, hx, hxw⟩ := Option.bind_eq_some_iff.1 hw
  cases hs : base.scheme with
  | none => exact .of_relative hb hs hr
  | some scheme =>
    have hsome : base.uri.scheme.isSome := by rw [show base.uri.scheme = some scheme from hs]; rfl
    obtain ⟨y, hy, hbare, rfl, hyu⟩ :=
      Uri.exists_bare_of_toUrl? (isClean_of_isNormal hb) hs ho hx
    have hyw := Uri.ofUrl?_bare hy hbare hxw
    have hstable : (⟨w.withFragment none⟩ : Reference).IsStable :=
      Uri.IsUrl.isStable ⟨y, hy, hbare, hyw⟩
    have hlocator : base.toLocator = ⟨w.withFragment none⟩ := by
      have hnormal := Uri.normalize_of_hierarchical (u := base.uri.withFragment none) ho hsome
      rw [hyu, Option.bind_some, hyw, Option.getD_some] at hnormal
      rw [Reference.toLocator, ofUri_congr (hnormal.trans hstable.normal.symm), hstable.ofUri_uri]
    obtain ⟨written, hjoin, hnormal, hdecode⟩ := exists_join_of_isLocal hy hbare hyw _ hr
    have hresolve : base.resolve r = ofUri ((w.withFragment none).withFragment written) := by
      rw [Reference.resolve, hr.scheme, resolveInArchive?_eq, he]
      change ofUri (base.uri.resolve r.uri) = _
      rw [uri_resolve_of_toUrl? ho hsome hr.scheme hx, hjoin, Option.getD_some]
    obtain ⟨hto, hfragment⟩ := hstable.leadsTo hnormal
    rw [hlocator, hresolve]
    exact ⟨hto, by rw [hfragment, hdecode]⟩

/-- The locator of a final reference that was read with a scheme reads as it is written. -/
theorem parse_locator {text : String} (h : parse text = .ok base) (hs : base.scheme.isSome)
    (hn : base.IsFinal) : Uri.parse base.locator = .ok (base.uri.withFragment none) := by
  have hurl {x : Url} (hx : Uri.ofUrl? x = some base.uri) :=
    Uri.parse_toChars_of_parse (Uri.toOption_eq_some.1 hx) hs
  rcases hn with ho | hu
  · obtain ⟨u, hu, rfl⟩ := exists_uri_of_parse h
    have huri := uri_ofUri hs
    rw [huri] at ho
    rcases Uri.opaque_or_url_of_normalize ho with hopaque | ⟨x, hx⟩
    · rw [Uri.normalize_of_isOpaque hopaque] at huri
      rw [locator, huri]
      exact Uri.parse_toChars_of_parse hu (huri ▸ hs)
    · exact hurl (hx.trans (congrArg some huri.symm))
  · obtain ⟨x, -, hx⟩ := Option.bind_eq_some_iff.1 hu
    exact hurl hx

/-- A final reference with another fragment is brought to its normal form by escaping the
fragment, if at all. -/
theorem exists_normalize_of_isFinal (hb : base.IsNormal) (hs : base.scheme.isSome)
    (hn : base.IsFinal) (hw : Uri.IsWritable fragment) (hsharp : '#' ∉ fragment) :
    ∃ written, (base.uri.withFragment (some fragment)).normalize =
        base.uri.withFragment (some written) ∧
      (base.uri.withFragment (some written)).normalize = base.uri.withFragment (some written) ∧
      Percent.decode written = Percent.decode fragment := by
  cases ho : base.uri.isOpaque with
  | true =>
    exact ⟨fragment, Uri.normalize_of_isOpaque ho, Uri.normalize_of_isOpaque ho, rfl⟩
  | false =>
    obtain ⟨x, hx, hxw⟩ := Option.bind_eq_some_iff.1 (hn.resolve_left (by rw [ho]; nofun))
    obtain ⟨scheme, hscheme⟩ := Option.isSome_iff_exists.1 hs
    have hclean := isClean_of_isNormal hb
    obtain ⟨y, hy, hbare, rfl, hyu⟩ := Uri.exists_bare_of_toUrl? hclean hscheme ho hx
    have hyw := Uri.ofUrl?_bare hy hbare hxw
    obtain ⟨hread, hnormal⟩ := Uri.ofUrl?_with_fragment hy hbare hyw
      (Percent.stays_encode fragment) (Percent.isWritable_encode hw)
      (Percent.sharp_notMem_encode hsharp)
    rw [Uri.normalize_of_hierarchical (u := base.uri.withFragment (some fragment)) ho hs]
    cases hx' : (base.uri.withFragment (some fragment)).toUrl? with
    | some x' =>
      have hclean' : (base.uri.withFragment (some fragment)).IsClean :=
        hclean.withFragment (Uri.isCleanText_of_isWritable hw hsharp)
      obtain ⟨y', hy', hbare', rfl, hyu'⟩ := Uri.exists_bare_of_toUrl? hclean' hscheme ho hx'
      obtain rfl : y = y' := Option.some.inj (hyu.symm.trans hyu')
      exact ⟨_, congrArg (Option.getD · _) hread, hnormal, Percent.decode_encode_of_isWritable hw⟩
    | none =>
      obtain ⟨hchars, -, -, hpath⟩ := Uri.ofUrl?_spec hy hbare hyw
      have htext : (base.uri.withFragment (some fragment)).toChars =
          { y with fragment := some fragment }.toChars := by
        rw [Uri.toChars_withFragment_some, hchars, Uri.toChars_with_fragment hbare]
      -- A URL that is accepted only without the fragment has an authority, so its path is resolved.
      have hauthority : y.authority.isSome := by
        by_contra ha
        have hblank : ∀ c ∈ fragment, 0x20 < c.toNat := fun c hc =>
          (Uri.of_isForbidden (Uri.isForbidden_of_mem hw hc)).1
        have hsome := Url.isSome_parse_of_bare hy (Option.not_isSome_iff_eq_none.1 ha) hblank
        rw [Uri.toUrl?, htext] at hx'
        rw [hx'] at hsome
        cases hsome
      have hresolved : Uri.removeDotSegments base.uri.path = base.uri.path := by
        have hp : base.uri.path = y.path := hpath hauthority
        rw [hp, Uri.isResolved_path hy]
      have hself : ({ base.uri.withFragment (some fragment) with
          path := Uri.removeDotSegments base.uri.path } : Uri) =
            base.uri.withFragment (some fragment) := by
        rw [hresolved]
        rfl
      refine ⟨fragment, hself, ?_, rfl⟩
      rw [Uri.normalize_of_hierarchical (u := base.uri.withFragment (some fragment)) ho hs, hx']
      exact hself

theorem toLocator_of_isFinal (hb : base.IsNormal) (hs : base.scheme.isSome) (hn : base.IsFinal) :
    base.toLocator = ⟨base.uri.withFragment none⟩ := by
  cases ho : base.uri.isOpaque with
  | true =>
    exact ofUri_of_scheme (Uri.normalize_of_isOpaque (u := base.uri.withFragment none) ho) hs
  | false =>
    obtain ⟨scheme, hscheme⟩ := Option.isSome_iff_exists.1 hs
    have hurl := hn.resolve_left (by rw [ho]; nofun)
    exact (Uri.isUrl_of_toUrl? (isClean_of_isNormal hb) hscheme ho hurl).2.isStable.ofUri_uri

theorem entry?_eq_some {archive : List Char} {entry : Uri}
    (h : base.entry? = some (archive, entry)) :
    base.scheme.isSome ∧ ∃ written, base.locator = archive ++ '!' :: written ∧
      Uri.parse written = .ok entry := by
  unfold entry? at h
  split at h
  · cases h
  · rename_i hs
    obtain ⟨⟨before, after⟩, hcut, h⟩ := Option.bind_eq_some_iff.1 h
    obtain ⟨u, hu, h⟩ := Option.bind_eq_some_iff.1 h
    cases h
    refine ⟨?_, after, (Text.cut?_eq_some hcut).1, Uri.toOption_eq_some.1 hu⟩
    cases hscheme : base.scheme with
    | none => rw [hscheme] at hs; exact absurd rfl hs
    | some scheme => rfl

/-- A reference without scheme and fragment is written as it was read. -/
theorem toChars_of_parse_of_relative {text : List Char} {u : Uri} (h : Uri.parse text = .ok u)
    (hs : u.scheme = none) (hsharp : '#' ∉ text) : u.toChars = text ∧ u.fragment = none := by
  obtain ⟨-, w, hm, rfl⟩ := (Uri.parse_of_notMem hsharp).1 h
  obtain ⟨rest, hsplit, hchars⟩ := Uri.toChars_of_parseMain hm
  obtain ⟨-, -, hbare, -⟩ := Uri.parseMain_eq_ok hm
  rw [Uri.withFragment_self hbare]
  have hws : w.scheme = none := hs
  rw [hws] at hsplit hchars
  refine ⟨?_, hbare⟩
  rcases Uri.splitScheme_eq_ok hsplit with ⟨-, htext⟩ | ⟨name, hname, -, -⟩
  · rw [hchars, htext]
    rfl
  · cases hname

/-- Within an archive, a fragment is put behind the locator, and the whole is read again. -/
theorem resolve_of_entry {archive : List Char} {entry : Uri} {written : Option (List Char)}
    (hsharp : '#' ∉ base.locator) (he : base.entry? = some (archive, entry))
    (hs : entry.scheme = none) (hr : r.uri = .withFragment .empty written) :
    base.resolve r = ofUri (((Uri.parse (base.locator ++ Uri.part ['#'] written)).toOption).getD
      (base.uri.resolve r.uri)) := by
  obtain ⟨-, entryText, htext, hentry⟩ := entry?_eq_some he
  obtain ⟨hchars, hbare⟩ := toChars_of_parse_of_relative hentry hs fun hm =>
    hsharp (by rw [htext]; simp [hm])
  have hwritten : (entry.withFragment written).toChars = entryText ++ Uri.part ['#'] written := by
    rw [← hchars, Uri.toChars_eq, Uri.toChars_eq, hbare]
    simp [Uri.withFragment, Uri.part]
  have hrs : r.scheme = none := congrArg Uri.scheme hr
  rw [Reference.resolve, hrs, resolveInArchive?_eq, he]
  simp only [Option.bind_some, uri_resolve_of_isLocal hs hr, hwritten, htext, List.append_assoc,
    List.cons_append]
  rfl

/-- An entry of an archive anchors references. -/
theorem LeadsTo.of_entry {text : String} {archive : List Char} {entry : Uri}
    (hp : parse text = .ok base) (hn : base.IsFinal) (he : base.entry? = some (archive, entry))
    (hs : entry.scheme = none) (hr : r.IsLocal fragment) :
    (base.resolve r).LeadsTo base.toLocator fragment := by
  have hb := isNormal_of_parse hp
  have hsome := (entry?_eq_some he).1
  have hread : Uri.parse base.locator = .ok (base.uri.withFragment none) :=
    parse_locator hp hsome hn
  have hsharp : '#' ∉ base.locator := fun hm => ((isClean_of_isNormal hb).chars _ hm).2 rfl
  have hlocator := toLocator_of_isFinal hb hsome hn
  have hstable := isStable_toLocator hb
  rw [hlocator] at hstable ⊢
  obtain ⟨written, hu, hf, rfl | rfl⟩ := hr.fragment_cases
  · obtain ⟨f, hnormal, hagain, hdecode⟩ :=
      exists_normalize_of_isFinal hb hsome hn hr.writable hr.plain
    obtain ⟨hto, hfragment⟩ := hstable.leadsTo hagain
    have hof : base.resolve r = ofUri ((base.uri.withFragment none).withFragment (some f)) := by
      rw [resolve_of_entry hsharp he hs hu, Uri.part, List.singleton_append,
        Uri.toOption_parse_append hsharp hr.writable hr.plain, hread]
      exact ofUri_congr (hnormal.trans hagain.symm)
    rw [hof]
    exact ⟨hto, by rw [hfragment, Option.getD_some, hdecode]⟩
  · obtain ⟨hto, hfragment⟩ := IsStable.leadsTo hstable hstable.normal
    have hof : base.resolve r = ofUri ((base.uri.withFragment none).withFragment none) := by
      rw [resolve_of_entry hsharp he hs hu, Uri.part, List.append_nil, hread]
      rfl
    rw [hof]
    exact ⟨hto, by rw [hfragment, ← hf]⟩

/-- **A fragment leads from an anchoring base into the document of the base.** -/
theorem Anchors.leadsTo {text : String} (ha : base.Anchors) (hp : parse text = .ok base)
    (hr : r.IsLocal fragment) : (base.resolve r).LeadsTo base.toLocator fragment := by
  cases ha with
  | relative hs => exact .of_relative (isNormal_of_parse hp) hs hr
  | url ho he hu => exact .of_url (isNormal_of_parse hp) ho he hu hr
  | entry hn he hs => exact .of_entry hp hn he hs hr

end Reference

end JsonSchema
