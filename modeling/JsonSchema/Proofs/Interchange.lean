import JsonSchema.Proofs.Anchors
import JsonSchema.Proofs.Directory
import Mathlib

/-!
# Equal references in each other's place

Two references are the same if their texts agree, and a text does not tell every reference: the
normal form of one without scheme may have a path that is written like an authority or like a
scheme. Equal references have the same parts exactly if both or neither of them are of this kind,
and then one can stand for the other as a base and as what is resolved.

* `Reference.locator_eq_of_same`: equal references agree in locator and raw fragment.
* `Reference.parts_eq_of_same`: when they agree in their parts.
* `Reference.same_resolve_right`, `Reference.same_resolve_left`: then they resolve alike.
* `Reference.interchangeable_iff`: the condition is necessary, too.
-/

namespace JsonSchema

theorem Text.cut?_append_of_notMem {c : Char} {front rest : List Char} (h : c ∉ front) :
    cut? c (front ++ rest) = (cut? c rest).map fun (before, after) => (front ++ before, after) := by
  cases hc : cut? c rest with
  | none =>
    refine cut?_of_notMem fun hm => ?_
    exact (List.mem_append.1 hm).elim h (notMem_of_cut?_eq_none hc)
  | some p =>
    obtain ⟨before, after⟩ := p
    obtain ⟨rfl, hb⟩ := cut?_eq_some hc
    rw [← List.append_assoc, cut?_append fun hm => (List.mem_append.1 hm).elim h hb]
    rfl

namespace Uri

variable {u v w : Uri} {text : List Char}

theorem notMem_front (h : u.IsClean) : '#' ∉ (u.withFragment none).toChars :=
  fun hm => (h.chars '#' hm).2 rfl

theorem front_of_scheme_eq_none (hs : u.scheme = none) :
    (u.withFragment none).toChars = u.hierarchy ++ part ['?'] u.query := by
  rw [toChars_of_scheme_eq_none (by exact hs)]
  exact List.append_nil _

/-- Authority with path, and query, are told apart in a text. -/
theorem hierarchy_eq_of_front_eq (hu : u.IsRelative) (hv : v.IsRelative)
    (h : (u.withFragment none).toChars = (v.withFragment none).toChars) :
    u.hierarchy = v.hierarchy ∧ u.query = v.query := by
  rw [front_of_scheme_eq_none hu.scheme, front_of_scheme_eq_none hv.scheme] at h
  have hsplit {w : Uri} (hw : w.IsRelative) :
      splitOptional '?' (w.hierarchy ++ part ['?'] w.query) = (w.hierarchy, w.query) := by
    cases w.query with
    | none => rw [part, List.append_nil, splitOptional_of_notMem hw.question]
    | some q => exact splitOptional_append hw.question q
  have hpair := hsplit hu
  rw [h, hsplit hv] at hpair
  exact ⟨(congrArg Prod.fst hpair).symm, (congrArg Prod.snd hpair).symm⟩

/-- References without scheme and with one text have the same parts, if both or neither have an
authority. -/
theorem bare_eq_of_front_eq (hu : u.IsRelative) (hv : v.IsRelative)
    (h : (u.withFragment none).toChars = (v.withFragment none).toChars)
    (ha : u.authority = none ↔ v.authority = none) :
    u.withFragment none = v.withFragment none := by
  obtain ⟨hhier, hquery⟩ := hierarchy_eq_of_front_eq hu hv h
  have hparts : u.authority = v.authority ∧ u.path = v.path := by
    cases hua : u.authority with
    | none =>
      have hva := ha.1 hua
      rw [hierarchy, hierarchy, hua, hva] at hhier
      exact ⟨hva.symm, hhier⟩
    | some a =>
      have hva : v.authority.isSome := by
        rw [Option.isSome_iff_ne_none]
        intro hnone
        rw [ha.2 hnone] at hua
        cases hua
      have hreread : u.reread = v.reread.withFragment u.fragment := by
        simp only [reread, withFragment, hhier, hquery, hu.scheme, hv.scheme]
      rw [reread_of_authority hu (by rw [hua]; rfl), reread_of_authority hv hva] at hreread
      rw [hreread] at hua ⊢
      exact ⟨hua.symm, rfl⟩
  obtain ⟨scheme, authority, path, query, fragment⟩ := u
  obtain ⟨scheme', authority', path', query', fragment'⟩ := v
  obtain ⟨rfl, rfl⟩ := hparts
  obtain rfl : scheme = none := hu.scheme
  obtain rfl : scheme' = none := hv.scheme
  obtain rfl : query = query' := hquery
  rfl

theorem front_of_scheme {scheme : List Char} (hs : u.scheme = some scheme) :
    (u.withFragment none).toChars = scheme ++ ':' :: (u.hierarchy ++ part ['?'] u.query) := by
  rw [toChars_eq]
  simp [withFragment, hs, schemePart, part, hierarchy]

/-- The scheme of a reference is told from its text. -/
theorem splitScheme_front (hu : u.IsClean) {scheme : List Char} (hs : u.scheme = some scheme) :
    splitScheme (u.withFragment none).toChars =
      .ok (some scheme, u.hierarchy ++ part ['?'] u.query) := by
  rw [front_of_scheme hs]
  exact splitScheme_append (hu.scheme scheme hs) _

theorem scheme_eq_of_front_eq (hu : u.IsClean) (hv : v.IsClean) (hus : u.scheme.isSome)
    (hvs : v.scheme.isSome) (h : (u.withFragment none).toChars = (v.withFragment none).toChars) :
    u.scheme = v.scheme := by
  obtain ⟨s, hs⟩ := Option.isSome_iff_exists.1 hus
  obtain ⟨t, ht⟩ := Option.isSome_iff_exists.1 hvs
  have hu' := splitScheme_front hu hs
  rw [h, splitScheme_front hv ht] at hu'
  rw [hs, ht]
  exact (congrArg Prod.fst (Except.ok.inj hu')).symm

/-- A text with a scheme that is also that of a reference without scheme starts like a scheme. -/
theorem startsLikeScheme_of_front_eq (hu : u.IsClean) (hv : v.IsRelative) (hus : u.scheme.isSome)
    (h : (u.withFragment none).toChars = (v.withFragment none).toChars) :
    v.authority = none ∧ startsLikeScheme v.path := by
  obtain ⟨s, hs⟩ := Option.isSome_iff_exists.1 hus
  have hsplit := splitScheme_front hu hs
  rw [h, front_of_scheme_eq_none hv.scheme] at hsplit
  by_contra hc
  have hnone : splitScheme (v.hierarchy ++ part ['?'] v.query) =
      .ok (none, v.hierarchy ++ part ['?'] v.query) :=
    splitScheme_eq_none_iff.2 ⟨fun hm => hc ((colon_mem_iff hv.question).1 hm), rfl⟩
  rw [hnone] at hsplit
  cases hsplit

theorem toChars_withFragment (u : Uri) (fragment : Option (List Char)) :
    (u.withFragment fragment).toChars = (u.withFragment none).toChars ++ part ['#'] fragment := by
  rw [toChars_eq, toChars_eq]
  simp [withFragment, part]

/-- A fragment, or none, is read apart from the text in front of it. -/
theorem toOption_parse_append_part {fragment : Option (List Char)} (h : '#' ∉ text)
    (hw : IsWritable (fragment.getD [])) (hf : '#' ∉ fragment.getD []) :
    (parse (text ++ part ['#'] fragment)).toOption =
      (parse text).toOption.map fun u => u.withFragment fragment := by
  cases fragment with
  | some f => exact toOption_parse_append h hw hf
  | none =>
    rw [part, List.append_nil]
    refine Option.ext fun u => ?_
    rw [Option.map_eq_some_iff]
    simp only [toOption_eq_some, parse_of_notMem h]
    constructor
    · rintro ⟨ht, w, hm, rfl⟩
      exact ⟨_, ⟨ht, w, hm, rfl⟩, rfl⟩
    · rintro ⟨_, ⟨ht, w, hm, rfl⟩, rfl⟩
      exact ⟨ht, w, hm, rfl⟩

theorem fst_splitOptional_append {c : Char} {front : List Char} (h : c ∉ front)
    (rest : List Char) :
    (splitOptional c (front ++ rest)).1 = front ++ (splitOptional c rest).1 := by
  rw [splitOptional, splitOptional, Text.cut?_append_of_notMem h]
  cases Text.cut? c rest <;> rfl

theorem head?_splitOptional_ne (c : Char) {text : List Char} (h : text.head? ≠ some '/') :
    (splitOptional c text).1.head? ≠ some '/' := by
  obtain ⟨hspec, -⟩ := splitOptional_spec c text
  intro hslash
  rw [← hspec, List.head?_append, hslash] at h
  exact h rfl

theorem splitAuthority_of_head? {path : List Char} (h : path.head? ≠ some '/') :
    splitAuthority path = (none, path) := by
  fun_cases splitAuthority path with
  | case1 after => exact absurd rfl h
  | case2 => rfl

/-- A text whose scheme is not followed by a slash is read as an opaque reference. -/
theorem isOpaque_of_parse {scheme rest : List Char} (hs : IsScheme scheme)
    (hrest : rest.head? ≠ some '/') (h : parse (scheme ++ ':' :: rest) = .ok u) :
    u.isOpaque := by
  obtain ⟨hw, -, v, hm, rfl⟩ := parse_eq_ok_iff.1 h
  -- A `#` does not stand in the scheme, so what is in front of it starts in the same way.
  have hsharp : '#' ∉ scheme ++ [':'] := by
    intro hm
    rcases List.mem_append.1 hm with hm | hm
    · exact (isCleanText_of_isScheme hs '#' hm).2 rfl
    · exact absurd (List.mem_singleton.1 hm) (by decide)
  have hfront := fst_splitOptional_append hsharp rest
  rw [List.append_assoc, List.append_assoc, List.singleton_append, List.singleton_append] at hfront
  obtain ⟨rest', hsplit, -, hquery, hauthority⟩ := parseMain_eq_ok hm
  rw [hfront, splitScheme_append hs] at hsplit
  obtain ⟨hscheme, rfl⟩ := Prod.mk.inj (Except.ok.inj hsplit)
  have hplain := head?_splitOptional_ne '?' (head?_splitOptional_ne '#' hrest)
  obtain ⟨ha, hp⟩ := Prod.mk.inj (hauthority.symm.trans (splitAuthority_of_head? hplain))
  unfold isOpaque withFragment
  simp only [← hscheme, ha, hp]
  simpa using hplain

/-- The text of a reference without hierarchy has no slash after the scheme. -/
theorem IsClean.front_of_isOpaque (hu : u.IsClean) (ho : u.isOpaque) :
    ∃ scheme rest, IsScheme scheme ∧ rest.head? ≠ some '/' ∧
      (u.withFragment none).toChars = scheme ++ ':' :: rest := by
  obtain ⟨⟨hsome, hauthority⟩, hhead⟩ : (u.scheme.isSome ∧ u.authority = none) ∧
      u.path.head? ≠ some '/' := by
    simpa [isOpaque] using ho
  obtain ⟨scheme, hs⟩ := Option.isSome_iff_exists.1 hsome
  refine ⟨scheme, _, hu.scheme scheme hs, ?_, front_of_scheme hs⟩
  rw [hierarchy, hauthority]
  change (u.path ++ part ['?'] u.query).head? ≠ some '/'
  rw [List.head?_append]
  cases hp : u.path.head? with
  | none =>
    intro hslash
    cases hq : u.query with
    | none =>
      rw [hq] at hslash
      cases hslash
    | some q =>
      rw [hq] at hslash
      exact absurd (Option.some.inj hslash) (by decide)
  | some c =>
    rw [hp] at hhead
    exact hhead

/-- What is resolved in an archive without hierarchy has no hierarchy either. -/
theorem IsClean.isOpaque_of_parse_archive (hu : u.IsClean) (ho : u.isOpaque)
    {archive written target : List Char}
    (hcut : Text.cut? '!' (u.withFragment none).toChars = some (archive, written))
    (h : parse (archive ++ '!' :: target) = .ok v) : v.isOpaque := by
  obtain ⟨scheme, rest, hscheme, hrest, htext⟩ := hu.front_of_isOpaque ho
  -- The `!` comes after the scheme.
  have hbang : '!' ∉ scheme ++ [':'] := by
    intro hm
    rcases List.mem_append.1 hm with hm | hm
    · exact absurd ((isSchemeName_iff.1 hscheme.1).2 '!' hm) (by decide)
    · exact absurd (List.mem_singleton.1 hm) (by decide)
  rw [htext, ← List.singleton_append, ← List.append_assoc, Text.cut?_append_of_notMem hbang] at hcut
  obtain ⟨⟨entry, written'⟩, hcut', hpair⟩ := Option.map_eq_some_iff.1 hcut
  obtain ⟨rfl, rfl⟩ := Prod.mk.inj hpair
  rw [(Text.cut?_eq_some hcut').1] at hrest
  rw [List.append_assoc, List.append_assoc, List.singleton_append] at h
  refine isOpaque_of_parse hscheme ?_ h
  cases entry with
  | nil => exact fun hh => absurd (Option.some.inj hh) (by decide)
  | cons c more => exact hrest

/-- A reference without scheme resolves apart from its fragment, unless the base is a hierarchical
URL. -/
theorem resolve_withFragment (hv : v.scheme = none) (hu : u.scheme = none ∨ u.isOpaque)
    (fragment : Option (List Char)) :
    u.resolve (v.withFragment fragment) = (u.resolve v).withFragment fragment := by
  rcases hu with hu | ho
  · rw [resolve_of_scheme_eq_none hu hv, resolve_of_scheme_eq_none hu (by exact hv),
      mergeRelative_withFragment]
  · have hresolve (w : Uri) : u.resolve w = w.normalize := by
      rw [resolve, ho, Bool.or_true]
      exact if_pos rfl
    rw [hresolve, hresolve, normalize_of_scheme_eq_none hv,
      normalize_of_scheme_eq_none (by exact hv)]
    rfl

end Uri

namespace Reference

variable {a a' b b' c r : Reference} {t t' : String}

/-! ## Texts -/

/-- **Equal references agree in locator and raw fragment.** -/
theorem locator_eq_of_same (ha : a.uri.IsClean) (hb : b.uri.IsClean) (h : a.same b) :
    a.locator = b.locator ∧ a.rawFragment = b.rawFragment := by
  have hcanonical (r : Reference) : r.canonical = r.locator ++ '#' :: r.rawFragment :=
    Uri.toChars_withFragment_some r.uri r.rawFragment
  have htext : a.canonical = b.canonical := of_decide_eq_true h
  rw [hcanonical, hcanonical] at htext
  have hcut := Text.cut?_append (Uri.notMem_front ha) a.rawFragment
  have hcut' := Text.cut?_append (Uri.notMem_front hb) b.rawFragment
  rw [show (a.uri.withFragment none).toChars = a.locator from rfl, htext] at hcut
  have hpair := hcut.symm.trans hcut'
  exact ⟨congrArg Prod.fst (Option.some.inj hpair), congrArg Prod.snd (Option.some.inj hpair)⟩

/-- A reference without scheme whose path is written like an authority or like a scheme. -/
def IsMisread (r : Reference) : Prop :=
  r.scheme = none ∧ r.uri.authority = none ∧
    (['/', '/'] <+: r.uri.path ∨ Uri.startsLikeScheme r.uri.path)

instance : Decidable r.IsMisread :=
  inferInstanceAs (Decidable (_ ∧ _ ∧ _))

/-- Two references have the same parts, the fragment apart. -/
structure PartsEq (a b : Reference) : Prop where
  scheme : a.scheme = b.scheme
  bare : a.scheme = none → a.uri.withFragment none = b.uri.withFragment none

theorem PartsEq.isMisread_iff (h : a.PartsEq b) : a.IsMisread ↔ b.IsMisread := by
  unfold IsMisread
  rw [← h.scheme]
  refine and_congr_right fun hs => ?_
  have hbare := h.bare hs
  have hauthority := congrArg Uri.authority hbare
  have hpath := congrArg Uri.path hbare
  simp only [Uri.withFragment] at hauthority hpath
  rw [hauthority, hpath]

/-- A reference that is written like one with an authority has none only if it is misread. -/
theorem authority_eq_none_of_hierarchy_eq (hhier : a.uri.hierarchy = b.uri.hierarchy)
    (hs : a.scheme = none) (ha : a.uri.authority = none) (hm : a.IsMisread → b.IsMisread) :
    b.uri.authority = none := by
  by_contra hne
  obtain ⟨x, hx⟩ := Option.ne_none_iff_exists'.1 hne
  rw [Uri.hierarchy, Uri.hierarchy, ha, hx] at hhier
  have hprefix : ['/', '/'] <+: a.uri.path := ⟨x ++ b.uri.path, hhier.symm⟩
  exact hne (hm ⟨hs, ha, .inl hprefix⟩).2.1

/-- **When equal references have the same parts.** -/
theorem partsEq_iff_of_same (ha : parse t = .ok a) (hb : parse t' = .ok b) (h : a.same b) :
    a.PartsEq b ↔ (a.IsMisread ↔ b.IsMisread) := by
  refine ⟨PartsEq.isMisread_iff, fun hm => ?_⟩
  have hac := isClean_of_isNormal (isNormal_of_parse ha)
  have hbc := isClean_of_isNormal (isNormal_of_parse hb)
  have hfront : (a.uri.withFragment none).toChars = (b.uri.withFragment none).toChars :=
    (locator_eq_of_same hac hbc h).1
  cases has : a.scheme with
  | none =>
    have har := (relative_of_parse ha has).1
    cases hbs : b.scheme with
    | none =>
      have hbr := (relative_of_parse hb hbs).1
      obtain ⟨hhier, -⟩ := Uri.hierarchy_eq_of_front_eq har hbr hfront
      have hauthority : a.uri.authority = none ↔ b.uri.authority = none :=
        ⟨fun hn => authority_eq_none_of_hierarchy_eq hhier has hn hm.1,
          fun hn => authority_eq_none_of_hierarchy_eq hhier.symm hbs hn hm.2⟩
      exact ⟨has.trans hbs.symm, fun _ => Uri.bare_eq_of_front_eq har hbr hfront hauthority⟩
    | some s =>
      have hlike := Uri.startsLikeScheme_of_front_eq hbc har
        (Option.isSome_iff_exists.2 ⟨s, hbs⟩) hfront.symm
      have hbm := hm.1 ⟨has, hlike.1, .inr hlike.2⟩
      rw [hbm.1] at hbs
      cases hbs
  | some s =>
    have has' : a.uri.scheme.isSome := Option.isSome_iff_exists.2 ⟨s, has⟩
    cases hbs : b.scheme with
    | none =>
      have hbr := (relative_of_parse hb hbs).1
      have hlike := Uri.startsLikeScheme_of_front_eq hac hbr has' hfront
      have ham := hm.2 ⟨hbs, hlike.1, .inr hlike.2⟩
      rw [ham.1] at has
      cases has
    | some s' =>
      have hbs' : b.uri.scheme.isSome := Option.isSome_iff_exists.2 ⟨s', hbs⟩
      refine ⟨Uri.scheme_eq_of_front_eq hac hbc has' hbs' hfront, fun hnone => ?_⟩
      rw [has] at hnone
      cases hnone

/-! ## Resolving -/

/-- A reference without scheme, or with one that has no hierarchy. -/
def IsUnhierarchical (r : Reference) : Prop :=
  r.scheme = none ∨ r.uri.isOpaque

theorem resolve_of_isOpaque (hc : c.uri.isOpaque) (hb : b.scheme = none) :
    c.resolve b = ofUri ((resolveInArchive? c b).getD b.uri.normalize) := by
  rw [resolve, hb]
  have hresolve : c.uri.resolve b.uri = b.uri.normalize := by
    rw [Uri.resolve, hc, Bool.or_true]
    exact if_pos rfl
  rw [hresolve]
  rfl

/-- **Equal bases with the same parts lead to the same.** -/
theorem same_resolve_left (h : a.PartsEq a') (hl : a.locator = a'.locator)
    (ha : a.IsUnhierarchical) (ha' : a'.IsUnhierarchical) (b : Reference) :
    a.resolve b = a'.resolve b := by
  cases hb : b.scheme with
  | some s =>
    have hsome : b.scheme.isSome := by rw [hb]; rfl
    rw [resolve_of_scheme hsome, resolve_of_scheme hsome]
  | none =>
    cases has : a.scheme with
    | none =>
      have has' : a'.scheme = none := h.scheme.symm.trans has
      have hmerge : a.uri.mergeRelative b.uri = a'.uri.mergeRelative b.uri := by
        have hbare := congrArg (Uri.mergeRelative · b.uri) (h.bare has)
        exact hbare
      rw [resolve_of_relative has hb, resolve_of_relative has' hb, hmerge]
    | some s =>
      have has' : a'.scheme = some s := h.scheme.symm.trans has
      have hopaque := ha.resolve_left (by rw [has]; nofun)
      have hopaque' := ha'.resolve_left (by rw [has']; nofun)
      have hentry : a.entry? = a'.entry? := by
        unfold entry?
        rw [h.scheme, hl]
      rw [resolve_of_isOpaque hopaque hb, resolve_of_isOpaque hopaque' hb, resolveInArchive?_eq,
        resolveInArchive?_eq, hentry]

/-- What resolves a fragment apart: a reference without scheme, or with one without hierarchy. -/
theorem same_ofUri_withFragment {w : Uri} {f f' : Option (List Char)} (hw : w.IsClean)
    (hs : w.scheme = none ∨ w.isOpaque) (hf : Uri.IsCleanText (f.getD []))
    (hff : f.getD [] = f'.getD []) :
    (ofUri (w.withFragment f)).same (ofUri (w.withFragment f')) := by
  have hnormal (g : Option (List Char)) :
      (w.withFragment g).normalize = w.normalize.withFragment g := by
    rcases hs with hs | ho
    · rw [Uri.normalize_of_scheme_eq_none hs, Uri.normalize_of_scheme_eq_none (by exact hs)]
      rfl
    · rw [Uri.normalize_of_isOpaque ho]
      exact Uri.normalize_of_isOpaque ho
  rw [same, decide_eq_true_eq, canonical_ofUri (hw.withFragment hf),
    canonical_ofUri (hw.withFragment (hff ▸ hf)), hnormal, hnormal]
  change _ ++ '#' :: f.getD [] = _ ++ '#' :: f'.getD []
  rw [hff]
  rfl

theorem exists_cut?_of_entry? {archive : List Char} {entry : Uri}
    (h : c.entry? = some (archive, entry)) :
    ∃ written, Text.cut? '!' c.locator = some (archive, written) ∧
      Uri.parse written = .ok entry := by
  unfold entry? at h
  split at h
  · cases h
  · obtain ⟨⟨before, after⟩, hcut, h⟩ := Option.bind_eq_some_iff.1 h
    obtain ⟨u, hu, h⟩ := Option.bind_eq_some_iff.1 h
    cases h
    exact ⟨after, hcut, Uri.toOption_eq_some.1 hu⟩

/-- An archive whose entry is itself a URL with a hierarchy. -/
def HasUrlEntry (c : Reference) : Prop :=
  ∃ archive entry, c.entry? = some (archive, entry) ∧ entry.scheme.isSome ∧ entry.isOpaque = false

section Entry

variable {archive : List Char} {entry w : Uri} {f f' : Option (List Char)}

/-- What an archive makes of a reference without fragment has no fragment. -/
theorem fragment_resolve_of_entry (hs : w.scheme = none)
    (hentry : entry.scheme = none ∨ entry.isOpaque) (hbare : w.fragment = none) :
    (entry.resolve w).fragment = none := by
  have hself := Uri.resolve_withFragment hs hentry none
  rw [Uri.withFragment_self hbare] at hself
  rw [hself]
  rfl

theorem sharp_notMem_target (hc : c.uri.IsClean) (he : c.entry? = some (archive, entry))
    (hw : w.IsClean) (hfragment : (entry.resolve w).fragment = none) :
    '#' ∉ archive ++ '!' :: (entry.resolve w).toChars := by
  obtain ⟨written, hcut, hread⟩ := exists_cut?_of_entry? he
  have htarget := (Uri.isClean_of_parse hread).resolve hw
  have hlocator := Uri.notMem_front hc
  rw [show (c.uri.withFragment none).toChars = c.locator from rfl,
    (Text.cut?_eq_some hcut).1] at hlocator
  intro hm
  rcases List.mem_append.1 hm with hm | hm
  · exact hlocator (List.mem_append_left _ hm)
  rcases List.mem_cons.1 hm with hm | hm
  · exact absurd hm (by decide)
  · rw [← Uri.withFragment_self hfragment] at hm
    exact Uri.notMem_front htarget hm

/-- A fragment is put back after an archive without hierarchy has resolved the rest. -/
theorem resolve_withFragment_of_archive (hc : c.uri.IsClean) (ho : c.uri.isOpaque)
    (he : c.entry? = some (archive, entry)) (hentry : entry.scheme = none ∨ entry.isOpaque)
    (hw : w.IsClean) (hs : w.scheme = none) (hbare : w.fragment = none)
    (hwritable : Uri.IsWritable (f.getD [])) (hsharp : '#' ∉ f.getD []) :
    c.resolve ⟨w.withFragment f⟩ =
      ofUri (((Uri.parse (archive ++ '!' :: (entry.resolve w).toChars)).toOption.map
        (·.withFragment f)).getD (w.normalize.withFragment f)) := by
  have hfragment := fragment_resolve_of_entry hs hentry hbare
  have htarget := sharp_notMem_target hc he hw hfragment
  have hchars : ((entry.resolve w).withFragment f).toChars =
      (entry.resolve w).toChars ++ Uri.part ['#'] f := by
    rw [Uri.toChars_withFragment, Uri.withFragment_self hfragment]
  have hnormal : (w.withFragment f).normalize = w.normalize.withFragment f := by
    rw [Uri.normalize_of_scheme_eq_none hs, Uri.normalize_of_scheme_eq_none (by exact hs)]
    rfl
  rw [resolve_of_isOpaque ho (by exact hs), resolveInArchive?_eq, he, Option.bind_some]
  simp only
  rw [Uri.resolve_withFragment hs hentry, hchars, hnormal, ← List.cons_append,
    ← List.append_assoc, Uri.toOption_parse_append_part htarget hwritable hsharp]

/-- What an archive without hierarchy makes of a reference, its fragment apart. -/
theorem same_resolve_of_entry? (hc : c.uri.IsClean) (ho : c.uri.isOpaque)
    (he : c.entry? = some (archive, entry)) (hentry : entry.scheme = none ∨ entry.isOpaque)
    (hw : w.IsClean) (hs : w.scheme = none) (hbare : w.fragment = none)
    (hwritable : Uri.IsWritable (f.getD [])) (hclean : Uri.IsCleanText (f.getD []))
    (hff : f.getD [] = f'.getD []) :
    (c.resolve ⟨w.withFragment f⟩).same (c.resolve ⟨w.withFragment f'⟩) := by
  have hplain : '#' ∉ f.getD [] := fun hm => (hclean _ hm).2 rfl
  rw [resolve_withFragment_of_archive hc ho he hentry hw hs hbare hwritable hplain,
    resolve_withFragment_of_archive hc ho he hentry hw hs hbare (hff ▸ hwritable) (hff ▸ hplain)]
  cases hp : (Uri.parse (archive ++ '!' :: (entry.resolve w).toChars)).toOption with
  | none =>
    have hns : w.normalize.scheme = none := by
      rw [Uri.normalize_of_scheme_eq_none hs]
      exact hs
    exact same_ofUri_withFragment hw.normalize (.inl hns) hclean hff
  | some v =>
    obtain ⟨written, hcut, -⟩ := exists_cut?_of_entry? he
    have hv := Uri.toOption_eq_some.1 hp
    have hopaque := hc.isOpaque_of_parse_archive ho hcut hv
    exact same_ofUri_withFragment (Uri.isClean_of_parse hv) (.inr hopaque) hclean hff

/-- A base without hierarchy that is no archive leaves a reference as it is, its fragment apart. -/
theorem same_resolve_of_entry?_eq_none (ho : c.uri.isOpaque) (he : c.entry? = none)
    (hw : w.IsClean) (hs : w.scheme = none) (hclean : Uri.IsCleanText (f.getD []))
    (hff : f.getD [] = f'.getD []) :
    (c.resolve ⟨w.withFragment f⟩).same (c.resolve ⟨w.withFragment f'⟩) := by
  have hnormal (g : Option (List Char)) :
      c.resolve ⟨w.withFragment g⟩ = ofUri (w.normalize.withFragment g) := by
    rw [resolve_of_isOpaque ho (by exact hs), resolveInArchive?_eq, he]
    change ofUri (w.withFragment g).normalize = _
    rw [Uri.normalize_of_scheme_eq_none hs, Uri.normalize_of_scheme_eq_none (by exact hs)]
    rfl
  rw [hnormal, hnormal]
  refine same_ofUri_withFragment hw.normalize (.inl ?_) hclean hff
  rw [Uri.normalize_of_scheme_eq_none hs]
  exact hs

end Entry

/-- **Equal references with the same parts lead to the same** from a base without hierarchy. -/
theorem same_resolve_right (hb : parse t = .ok b) (hb' : parse t' = .ok b') (h : b.same b')
    (hp : b.PartsEq b') (hc : c.uri.IsClean) (hu : c.IsUnhierarchical)
    (hf : c.HasUrlEntry → b.uri.fragment = b'.uri.fragment) :
    (c.resolve b).same (c.resolve b') := by
  cases hs : b.scheme with
  | some s =>
    have hs' : b'.scheme = some s := hp.scheme.symm.trans hs
    rwa [resolve_of_scheme (by rw [hs]; rfl), resolve_of_scheme (by rw [hs']; rfl)]
  | none =>
    have hrel := (relative_of_parse hb hs).1
    have hbc := isClean_of_isNormal (isNormal_of_parse hb)
    have hbc' := isClean_of_isNormal (isNormal_of_parse hb')
    have hraw := (locator_eq_of_same hbc hbc' h).2
    have huri : b = ⟨(b.uri.withFragment none).withFragment b.uri.fragment⟩ := rfl
    have huri' : b' = ⟨(b.uri.withFragment none).withFragment b'.uri.fragment⟩ := by
      rw [hp.bare hs]
      rfl
    have hclean := hbc.fragment
    rw [huri, huri']
    have hws : (b.uri.withFragment none).scheme = none := hs
    rcases hu with hcs | ho
    · have hmerge (g : Option (List Char)) :
          c.resolve ⟨(b.uri.withFragment none).withFragment g⟩ =
            ofUri ((c.uri.mergeRelative (b.uri.withFragment none)).withFragment g) := by
        rw [resolve_of_relative hcs (by exact hs), Uri.mergeRelative_withFragment]
      rw [hmerge, hmerge]
      refine same_ofUri_withFragment (hc.mergeRelative hbc.bare) (.inl ?_) hclean hraw
      exact Uri.scheme_mergeRelative.trans hcs
    · cases he : c.entry? with
      | none => exact same_resolve_of_entry?_eq_none ho he hbc.bare hws hclean hraw
      | some p =>
        obtain ⟨archive, entry⟩ := p
        by_cases hentry : entry.scheme = none ∨ entry.isOpaque
        · exact same_resolve_of_entry? hc ho he hentry hbc.bare hws rfl hrel.writableFragment
            hclean hraw
        · rw [not_or, Bool.not_eq_true] at hentry
          have hurl : c.HasUrlEntry :=
            ⟨archive, entry, he, Option.isSome_iff_ne_none.2 hentry.1, hentry.2⟩
          rw [hf hurl]
          exact decide_eq_true rfl

/-! ## Telling references apart -/

/-- The text that identifies a reference without scheme, by its parts. -/
theorem canonical_ofUri_of_relative {u : Uri} (hu : u.IsClean) (hs : u.scheme = none) :
    (ofUri u).canonical =
      Uri.part ['/', '/'] u.authority ++ Uri.removeDotSegments u.path ++ Uri.part ['?'] u.query ++
        '#' :: u.fragment.getD [] := by
  rw [canonical_ofUri hu, Uri.normalize_of_scheme_eq_none hs,
    Uri.front_of_scheme_eq_none (by exact hs)]
  rfl

theorem canonical_of_relative (h : r.uri.IsRelative) :
    r.canonical = r.uri.hierarchy ++ Uri.part ['?'] r.uri.query ++ '#' :: r.rawFragment := by
  rw [canonical, Uri.toChars_withFragment_some, Uri.front_of_scheme_eq_none h.scheme]

/-- The reference to the root of a host. -/
def root : Reference :=
  ⟨.ofPath ['/']⟩

theorem parse_root : parse "/" = .ok root := by
  cbv

theorem canonical_resolve_root (h : a.uri.IsRelative) :
    (a.resolve root).canonical = Uri.part ['/', '/'] a.uri.authority ++ ['/', '#'] := by
  have hroot : root.uri.IsClean := isClean_of_isNormal (isNormal_of_parse parse_root)
  have hmerge : a.uri.mergeRelative root.uri =
      ⟨a.uri.scheme, a.uri.authority, ['/'], none, none⟩ := rfl
  rw [h.scheme] at hmerge
  rw [resolve_of_relative h.scheme rfl, hmerge, canonical_ofUri_of_relative (hmerge ▸
    h.clean.mergeRelative hroot) rfl]
  simp [Uri.part, Uri.removeDotSegments, Uri.resolveSegments, Text.split, Text.join, Uri.climb,
    Uri.isDotSegment]

/-- The root tells an authority from a path that is written like one. -/
theorem authority_eq_none_of_same_resolve_root (ha : a.uri.IsRelative) (hb : b.uri.IsRelative)
    (h : (a.resolve root).same (b.resolve root)) (hn : a.uri.authority = none) :
    b.uri.authority = none := by
  have htext : (a.resolve root).canonical = (b.resolve root).canonical := of_decide_eq_true h
  rw [canonical_resolve_root ha, canonical_resolve_root hb, hn] at htext
  by_contra hne
  obtain ⟨x, hx⟩ := Option.ne_none_iff_exists'.1 hne
  rw [hx] at htext
  have hsecond := congrArg (·[1]?) htext
  exact absurd hsecond (by simp [Uri.part])

/-- The reference to a host. -/
def host : Reference :=
  ⟨⟨none, some ['h'], [], none, none⟩⟩

theorem parse_host : parse "//h" = .ok host := by
  cbv

theorem isRelative_host : host.uri.IsRelative :=
  (relative_of_parse parse_host rfl).1

theorem canonical_resolve_host (h : b.uri.IsRelative) : (host.resolve b).canonical =
    Uri.part ['/', '/'] (b.uri.authority.or (some ['h'])) ++
      Uri.removeDotSegments (host.uri.mergeRelative b.uri).path ++
      Uri.part ['?'] (host.uri.mergeRelative b.uri).query ++ '#' :: b.rawFragment := by
  rw [resolve_of_relative rfl h.scheme,
    canonical_ofUri_of_relative (isRelative_host.clean.mergeRelative h.clean)
      Uri.scheme_mergeRelative, Uri.authority_mergeRelative, Uri.fragment_mergeRelative]
  rfl

theorem head?_canonical_resolve_host (h : b.uri.IsRelative) :
    (host.resolve b).canonical.head? = some '/' := by
  rw [canonical_resolve_host h]
  cases b.uri.authority <;> rfl

theorem head?_canonical_of_scheme (h : b.uri.IsClean) (hs : b.scheme.isSome) :
    b.canonical.head? ≠ some '/' := by
  obtain ⟨scheme, hscheme⟩ := Option.isSome_iff_exists.1 hs
  have hname := h.scheme scheme hscheme
  have hslash : ∀ c ∈ scheme, c ≠ '/' := Uri.forall_mem_of_isScheme hname (by decide)
  rw [canonical, Uri.toChars_withFragment_some, Uri.front_of_scheme hscheme]
  cases scheme with
  | nil => exact absurd hname.1 (by decide)
  | cons c rest => exact fun hh => hslash c List.mem_cons_self (Option.some.inj hh)

theorem canonical_resolve_host_of_authority (h : b.uri.IsRelative) (hn : b.uri.normalize = b.uri)
    (ha : b.uri.authority.isSome) : (host.resolve b).canonical = b.canonical := by
  obtain ⟨x, hx⟩ := Option.isSome_iff_exists.1 ha
  have hpath : Uri.removeDotSegments b.uri.path = b.uri.path := by
    rw [Uri.normalize_of_scheme_eq_none h.scheme] at hn
    exact congrArg Uri.path hn
  have hmerge : (host.uri.mergeRelative b.uri).path = b.uri.path ∧
      (host.uri.mergeRelative b.uri).query = b.uri.query := by
    unfold Uri.mergeRelative
    rw [if_pos ha]
    exact ⟨hpath, rfl⟩
  rw [canonical_resolve_host h, canonical_of_relative h, hmerge.1, hmerge.2, hpath, hx,
    Uri.hierarchy, hx]
  rfl

theorem canonical_resolve_host_of_rooted (h : b.uri.IsRelative) (hn : b.uri.normalize = b.uri)
    (ha : b.uri.authority = none) (hp : b.uri.path.head? = some '/') :
    (host.resolve b).canonical = '/' :: '/' :: 'h' :: b.canonical := by
  have hpath : Uri.removeDotSegments b.uri.path = b.uri.path := by
    rw [Uri.normalize_of_scheme_eq_none h.scheme] at hn
    exact congrArg Uri.path hn
  have hne : b.uri.path ≠ [] := fun he => by
    rw [he] at hp
    cases hp
  have hmerge : (host.uri.mergeRelative b.uri).path = b.uri.path ∧
      (host.uri.mergeRelative b.uri).query = b.uri.query := by
    unfold Uri.mergeRelative
    rw [ha, if_neg (by simp), if_neg hne, if_pos hp]
    exact ⟨hpath, rfl⟩
  rw [canonical_resolve_host h, canonical_of_relative h, hmerge.1, hmerge.2, hpath, ha,
    Uri.hierarchy, ha]
  rfl

/-- A host tells an authority from a path that is written like one. -/
theorem authority_eq_none_of_same_resolve_host (hb : b.uri.IsRelative) (hb' : b'.uri.IsRelative)
    (hn : b.uri.normalize = b.uri) (hn' : b'.uri.normalize = b'.uri)
    (hhier : b.uri.hierarchy = b'.uri.hierarchy) (hsame : b.same b')
    (h : (host.resolve b).canonical = (host.resolve b').canonical)
    (ha : b.uri.authority = none) : b'.uri.authority = none := by
  by_contra hne
  obtain ⟨x, hx⟩ := Option.ne_none_iff_exists'.1 hne
  have hrooted : b.uri.path.head? = some '/' := by
    rw [Uri.hierarchy, Uri.hierarchy, ha, hx] at hhier
    have hpath : b.uri.path = '/' :: '/' :: (x ++ b'.uri.path) := hhier
    rw [hpath]
    rfl
  have htext : b.canonical = b'.canonical := of_decide_eq_true hsame
  rw [canonical_resolve_host_of_rooted hb hn ha hrooted,
    canonical_resolve_host_of_authority hb' hn' (by rw [hx]; rfl), ← htext] at h
  have hlength := congrArg List.length h
  simp only [List.length_cons] at hlength
  omega

/-- Equal references that lead to the same from a host are misread alike. -/
theorem isMisread_iff_of_same_resolve_host (hb : parse t = .ok b) (hb' : parse t' = .ok b')
    (h : b.same b') (hh : (host.resolve b).same (host.resolve b')) :
    b.IsMisread ↔ b'.IsMisread := by
  have hbc := isClean_of_isNormal (isNormal_of_parse hb)
  have hbc' := isClean_of_isNormal (isNormal_of_parse hb')
  have hfront : (b.uri.withFragment none).toChars = (b'.uri.withFragment none).toChars :=
    (locator_eq_of_same hbc hbc' h).1
  have htext : (host.resolve b).canonical = (host.resolve b').canonical := of_decide_eq_true hh
  rw [← partsEq_iff_of_same hb hb' h]
  cases hs : b.scheme with
  | some s =>
    have hsome : b.scheme.isSome := by rw [hs]; rfl
    cases hs' : b'.scheme with
    | some s' =>
      have hsome' : b'.scheme.isSome := by rw [hs']; rfl
      exact ⟨Uri.scheme_eq_of_front_eq hbc hbc' hsome hsome' hfront, by rw [hs]; nofun⟩
    | none =>
      have hhead := head?_canonical_resolve_host (relative_of_parse hb' hs').1
      rw [← htext, resolve_of_scheme hsome] at hhead
      exact absurd hhead (head?_canonical_of_scheme hbc hsome)
  | none =>
    obtain ⟨hrel, hn, -⟩ := relative_of_parse hb hs
    cases hs' : b'.scheme with
    | some s' =>
      have hsome' : b'.scheme.isSome := by rw [hs']; rfl
      have hhead := head?_canonical_resolve_host hrel
      rw [htext, resolve_of_scheme hsome'] at hhead
      exact absurd hhead (head?_canonical_of_scheme hbc' hsome')
    | none =>
      obtain ⟨hrel', hn', -⟩ := relative_of_parse hb' hs'
      obtain ⟨hhier, -⟩ := Uri.hierarchy_eq_of_front_eq hrel hrel' hfront
      have h' : b'.same b := decide_eq_true (of_decide_eq_true h : b.canonical = _).symm
      refine ⟨hs.trans hs'.symm, fun _ => Uri.bare_eq_of_front_eq hrel hrel' hfront ⟨?_, ?_⟩⟩
      · exact authority_eq_none_of_same_resolve_host hrel hrel' hn hn' hhier h htext
      · exact authority_eq_none_of_same_resolve_host hrel' hrel hn' hn hhier.symm h' htext.symm

/-- Equal references that lead to the same as bases of the root are misread alike. -/
theorem isMisread_iff_of_same_resolve_root (ha : parse t = .ok a) (ha' : parse t' = .ok a')
    (h : a.same a') (hs : a.scheme = a'.scheme) (hr : (a.resolve root).same (a'.resolve root)) :
    a.IsMisread ↔ a'.IsMisread := by
  have hac := isClean_of_isNormal (isNormal_of_parse ha)
  have hac' := isClean_of_isNormal (isNormal_of_parse ha')
  rw [← partsEq_iff_of_same ha ha' h]
  refine ⟨hs, fun hnone => ?_⟩
  have hrel := (relative_of_parse ha hnone).1
  have hrel' := (relative_of_parse ha' (hs.symm.trans hnone)).1
  have hr' : (a'.resolve root).same (a.resolve root) :=
    decide_eq_true (of_decide_eq_true hr : (a.resolve root).canonical = _).symm
  exact Uri.bare_eq_of_front_eq hrel hrel' (locator_eq_of_same hac hac' h).1
    ⟨authority_eq_none_of_same_resolve_root hrel hrel' hr,
      authority_eq_none_of_same_resolve_root hrel' hrel hr'⟩

/-- **When equal references can stand for each other.** They address the same document. As bases
they have one scheme and lead to the same exactly if both or neither are misread; resolved against
bases without hierarchy, again exactly if both or neither are. Left out are archives whose entry is
itself a hierarchical URL, where an empty fragment may make a difference. -/
theorem interchangeable_iff (ha : parse t = .ok a) (ha' : parse t' = .ok a') (haa : a.same a')
    (hu : a.IsUnhierarchical) (hu' : a'.IsUnhierarchical) :
    (a.contains a' ∧ a'.contains a) ∧
    ((a.scheme = a'.scheme ∧ ∀ s s' b b', parse s = .ok b → parse s' = .ok b' → b.same b' →
        (b.IsMisread ↔ b'.IsMisread) → (a.HasUrlEntry → b.uri.fragment = b'.uri.fragment) →
        (a.resolve b).same (a'.resolve b')) ↔ (a.IsMisread ↔ a'.IsMisread)) ∧
    ∀ s s' b b', parse s = .ok b → parse s' = .ok b' → b.same b' →
      ((∀ q c, parse q = .ok c → c.IsUnhierarchical → ¬c.HasUrlEntry →
        (c.resolve b).same (c.resolve b')) ↔ (b.IsMisread ↔ b'.IsMisread)) := by
  have hac := isClean_of_isNormal (isNormal_of_parse ha)
  have hac' := isClean_of_isNormal (isNormal_of_parse ha')
  have hl := (locator_eq_of_same hac hac' haa).1
  refine ⟨⟨decide_eq_true hl, decide_eq_true hl.symm⟩, ⟨fun h => ?_, fun hm => ?_⟩,
    fun s s' b b' hb hb' hbb => ⟨fun h => ?_, fun hm q c hc huc hne => ?_⟩⟩
  · have hroot := h.2 "/" "/" root root parse_root parse_root (decide_eq_true rfl) Iff.rfl
      fun _ => rfl
    exact isMisread_iff_of_same_resolve_root ha ha' haa h.1 hroot
  · have hparts := (partsEq_iff_of_same ha ha' haa).2 hm
    refine ⟨hparts.scheme, fun s s' b b' hb hb' hbb hbm hf => ?_⟩
    rw [← same_resolve_left hparts hl hu hu' b']
    exact same_resolve_right hb hb' hbb ((partsEq_iff_of_same hb hb' hbb).2 hbm) hac hu hf
  · have hnone : ¬host.HasUrlEntry := by
      rintro ⟨archive, entry, he, -⟩
      cases he
    exact isMisread_iff_of_same_resolve_host hb hb' hbb (h "//h" host parse_host (.inl rfl) hnone)
  · exact same_resolve_right hb hb' hbb ((partsEq_iff_of_same hb hb' hbb).2 hm)
      (isClean_of_isNormal (isNormal_of_parse hc)) huc fun h => absurd h hne

/-- A path of two segments, with the fragment that was written. -/
def twoSegments (fragment : Option (List Char)) : Reference :=
  ⟨(Uri.ofPath "/x/y".toList).withFragment fragment⟩

/-- A path of one segment, with the fragment that was written. -/
def oneSegment (fragment : Option (List Char)) : Reference :=
  ⟨(Uri.ofPath "z".toList).withFragment fragment⟩

theorem interchangeable_twoSegments :
    (twoSegments none).contains (twoSegments (some [])) ∧
      ((twoSegments none).resolve (oneSegment (some []))).same
        ((twoSegments (some [])).resolve (oneSegment none)) := by
  have ha : parse "/x/./y" = .ok (twoSegments none) := by cbv
  have ha' : parse "/x/y#" = .ok (twoSegments (some [])) := by cbv
  have hb : parse "z#" = .ok (oneSegment (some [])) := by cbv
  have hb' : parse "z" = .ok (oneSegment none) := by cbv
  obtain ⟨hcontains, hbase, -⟩ :=
    interchangeable_iff ha ha' (decide_eq_true rfl) (.inl rfl) (.inl rfl)
  have hplain : (twoSegments none).IsMisread ↔ (twoSegments (some [])).IsMisread :=
    iff_of_false (by decide) (by decide)
  have hplain' : (oneSegment (some [])).IsMisread ↔ (oneSegment none).IsMisread :=
    iff_of_false (by decide) (by decide)
  refine ⟨hcontains.1, (hbase.2 hplain).2 _ _ _ _ hb hb' (decide_eq_true rfl) hplain' ?_⟩
  rintro ⟨archive, entry, he, -⟩
  cases he

/-- A path that is written like an authority. -/
def doubleSlash : Reference :=
  ⟨.ofPath "//x/y".toList⟩

/-- The reference that is written in the same way. -/
def hostAndPath : Reference :=
  ⟨⟨none, some "x".toList, "/y".toList, none, none⟩⟩

/-- **Equal references that do not resolve alike**: a dot segment keeps two slashes from being read
as those of an authority, and the normal form has none. -/
theorem not_interchangeable_doubleSlash :
    parse "/.//x/y" = .ok doubleSlash ∧ parse "//x/y" = .ok hostAndPath ∧
      doubleSlash.same hostAndPath ∧ doubleSlash.scheme = none ∧ hostAndPath.scheme = none ∧
      (doubleSlash.resolve hostAndPath).text = "//x/y" ∧
      (hostAndPath.resolve doubleSlash).text = "//x//x/y" ∧
      ¬(doubleSlash.resolve hostAndPath).same (hostAndPath.resolve doubleSlash) := by
  have hdiffer : (doubleSlash.resolve hostAndPath).same (hostAndPath.resolve doubleSlash) =
      false := by
    cbv
  refine ⟨by cbv, by cbv, decide_eq_true rfl, rfl, rfl, by cbv, by cbv, ?_⟩
  rw [hdiffer]
  exact Bool.false_ne_true

end Reference

end JsonSchema
