import JsonSchema.Fetch
import JsonSchema.Proofs.Url.Brackets
import Mathlib

/-!
# Resolution within archives

The path of an entry is cut out of the locator of an archive, resolved as a reference of its own,
put back behind the `!`, and read again. What is put back is always made of characters that may
stand there; only brackets can be refused, since the scheme of an archive leaves no place for an
authority. A reference that is refused is not resolved at all, and leads out of the archive.

* `Uri.IsRelative.mergeRelative`: what is resolved without scheme is written as its parts.
* `Uri.resolve_cases`: what a reference without scheme is resolved to.
* `Uri.IsArchive.isReferenceText_iff`: which texts can stand behind the `!`.
* `Reference.resolve_within_archive`: which references stay within an archive.
-/

namespace JsonSchema

namespace Uri

variable {u v w : Uri} {path p text scheme target : List Char}

/-! ## Merged references -/

/-- The path of a merged reference: its own, that of the base, or its own in place of the end of
that of the base. -/
theorem path_mergeRelative_cases :
    ((v.authority.isSome ∨ v.path.head? = some '/') ∧
        (u.mergeRelative v).path = removeDotSegments v.path) ∨
      (v.authority = none ∧ (u.mergeRelative v).path = u.path) ∨
      (v.authority = none ∧ (u.mergeRelative v).path = removeDotSegments (u.merge v.path)) := by
  unfold mergeRelative
  split
  · rename_i ha
    exact .inl ⟨.inl ha, rfl⟩
  rename_i ha
  rw [Bool.not_eq_true, Option.isSome_eq_false_iff, Option.isNone_iff_eq_none] at ha
  split
  · exact .inr (.inl ⟨ha, rfl⟩)
  simp only
  split
  · rename_i hroot
    exact .inl ⟨.inr hroot, rfl⟩
  · exact .inr (.inr ⟨ha, rfl⟩)

theorem query_mergeRelative_cases :
    (u.mergeRelative v).query = v.query ∨ (u.mergeRelative v).query = u.query := by
  unfold mergeRelative
  split
  · exact .inl rfl
  split
  · cases v.query with
    | none => exact .inr rfl
    | some q => exact .inl rfl
  · exact .inl rfl

theorem mem_merge {c : Char} (h : c ∈ u.merge p) : c = '/' ∨ c ∈ u.path ∨ c ∈ p := by
  unfold merge at h
  split at h
  · rcases List.mem_cons.1 h with rfl | hm
    · exact .inl rfl
    · exact .inr (.inr hm)
  · rcases List.mem_append.1 h with hm | hm
    · exact .inr (.inl (List.mem_reverse.1
        ((List.dropWhile_sublist _).subset (List.mem_reverse.1 hm))))
    · exact .inr (.inr hm)

theorem mem_path_mergeRelative {c : Char} (h : c ∈ (u.mergeRelative v).path) :
    c = '/' ∨ c ∈ u.path ∨ c ∈ v.path := by
  rcases path_mergeRelative_cases (u := u) (v := v) with ⟨-, hp⟩ | ⟨-, hp⟩ | ⟨-, hp⟩ <;>
    rw [hp] at h
  · exact (mem_of_mem_removeDotSegments h).imp_right .inr
  · exact .inr (.inl h)
  · rcases mem_of_mem_removeDotSegments h with rfl | hm
    · exact .inl rfl
    · exact mem_merge hm

theorem mem_hierarchy_mergeRelative {c : Char} (h : c ∈ (u.mergeRelative v).hierarchy) :
    c = '/' ∨ c ∈ u.hierarchy ∨ c ∈ v.hierarchy := by
  rcases List.mem_append.1 h with hm | hm
  · rw [authority_mergeRelative] at hm
    cases hv : v.authority with
    | none =>
      rw [hv, Option.none_or] at hm
      exact .inr (.inl (List.mem_append_left _ hm))
    | some a =>
      rw [hv, Option.some_or, ← hv] at hm
      exact .inr (.inr (List.mem_append_left _ hm))
  · rcases mem_path_mergeRelative hm with rfl | hm | hm
    · exact .inl rfl
    · exact .inr (.inl (List.mem_append_right _ hm))
    · exact .inr (.inr (List.mem_append_right _ hm))

theorem isWritable_directory_append (hpath : IsWritable path) (hp : IsWritable p) :
    IsWritable (directory path ++ p) := by
  rw [← Text.join_split '/' (directory path ++ p), split_directory_append, isWritable_join]
  rw [← Text.join_split '/' path, isWritable_join] at hpath
  rw [← Text.join_split '/' p, isWritable_join] at hp
  intro piece hm
  rcases List.mem_append.1 hm with hm | hm
  · exact hpath piece ((List.dropLast_sublist _).subset hm)
  · exact hp piece hm

theorem isWritable_merge (hu : IsWritable u.path) (hp : IsWritable p) :
    IsWritable (u.merge p) := by
  by_cases hbare : u.authority.isSome ∧ u.path = []
  · rw [merge, if_pos hbare]
    exact isWritable_slash_cons.2 hp
  · rw [merge_of_not_bare hbare]
    exact isWritable_directory_append hu hp

namespace IsRelative

theorem head?_merge (hu : u.IsRelative) (ha : u.authority.isSome) (p : List Char) :
    (u.merge p).head? = some '/' := by
  by_cases hbare : u.authority.isSome ∧ u.path = []
  · rw [merge, if_pos hbare]
    rfl
  · have hroot := (hu.path ha).resolve_left fun hnil => hbare ⟨ha, hnil⟩
    rw [merge_of_not_bare hbare, List.head?_append, head?_directory_iff.2 hroot]
    rfl

/-- What is resolved without scheme is written as its parts, too. -/
theorem mergeRelative (hu : u.IsRelative) (hv : v.IsRelative) : (u.mergeRelative v).IsRelative where
  clean := hu.clean.mergeRelative hv.clean
  scheme := scheme_mergeRelative.trans hu.scheme
  authority a ha := by
    rw [authority_mergeRelative, Option.or_eq_some_iff] at ha
    rcases ha with ha | ⟨-, ha⟩
    · exact hv.authority a ha
    · exact hu.authority a ha
  path ha := by
    rw [authority_mergeRelative, Option.isSome_or, Bool.or_eq_true] at ha
    rcases path_mergeRelative_cases (u := u) (v := v) with ⟨hroot, hp⟩ | ⟨hn, hp⟩ | ⟨hn, hp⟩ <;>
      rw [hp]
    · exact head?_removeDotSegments (hroot.elim hv.path .inr)
    · exact hu.path (ha.resolve_left (by rw [hn]; nofun))
    · exact head?_removeDotSegments
        (.inr (hu.head?_merge (ha.resolve_left (by rw [hn]; nofun)) _))
  brackets ha c hc := by
    rw [authority_mergeRelative, Option.or_eq_none_iff] at ha
    rcases mem_path_mergeRelative hc with rfl | hc | hc
    · exact ⟨by decide, by decide⟩
    · exact hu.brackets ha.2 c hc
    · exact hv.brackets ha.1 c hc
  question hm := by
    rcases mem_hierarchy_mergeRelative hm with he | hm | hm
    · exact absurd he (by decide)
    · exact hu.question hm
    · exact hv.question hm
  writableAuthority := by
    rw [authority_mergeRelative]
    have hau := hu.writableAuthority
    have hav := hv.writableAuthority
    cases ha : v.authority with
    | none => exact hau
    | some a => rwa [ha] at hav
  writablePath := by
    rcases path_mergeRelative_cases (u := u) (v := v) with ⟨-, hp⟩ | ⟨-, hp⟩ | ⟨-, hp⟩ <;> rw [hp]
    · exact isWritable_removeDotSegments hv.writablePath
    · exact hu.writablePath
    · exact isWritable_removeDotSegments (isWritable_merge hu.writablePath hv.writablePath)
  writableQuery := by
    rcases query_mergeRelative_cases (u := u) (v := v) with hq | hq <;> rw [hq]
    · exact hv.writableQuery
    · exact hu.writableQuery
  writableFragment := by
    rw [fragment_mergeRelative]
    exact hv.writableFragment

/-- What is written as its parts is written with characters and escapes of references. -/
theorem isWritable_toChars (h : w.IsRelative) : IsWritable w.toChars := by
  rw [toChars_of_scheme_eq_none h.scheme,
    isWritable_append_part (by decide) (by decide) (by decide),
    isWritable_append_part (by decide) (by decide) (by decide), isWritable_hierarchy h.path]
  exact ⟨⟨⟨h.writableAuthority, h.writablePath⟩, h.writableQuery⟩, h.writableFragment⟩

end IsRelative

/-! ## Texts of references -/

theorem IsClean.count_sharp (h : w.IsClean) : w.toChars.count '#' ≤ 1 := by
  have hself : w.withFragment w.fragment = w := rfl
  rw [← hself, toChars_withFragment, List.count_append,
    List.count_eq_zero_of_not_mem (notMem_front h)]
  cases hf : w.fragment with
  | none => simp [part]
  | some f =>
    have hsharp : '#' ∉ f := fun hm => (h.fragment '#' (by rwa [hf])).2 rfl
    simp [part, List.count_eq_zero.2 hsharp]

/-- The text in front of a fragment. -/
theorem IsClean.front_eq_takeWhile (h : w.IsClean) :
    (w.withFragment none).toChars = w.toChars.takeWhile (· ≠ '#') := by
  have hself : w.withFragment w.fragment = w := rfl
  have hstop : ∀ c ∈ (part ['#'] w.fragment).head?, (decide (c ≠ '#')) = false := by
    cases w.fragment <;> simp [part]
  conv_rhs => rw [← hself, toChars_withFragment]
  refine (Text.takeWhile_append (fun c hc => ?_) hstop).symm
  exact decide_eq_true (h.chars c hc).2

theorem isSome_scheme_of_isOpaque (h : w.isOpaque) : w.scheme.isSome := by
  simp only [isOpaque, Bool.and_eq_true] at h
  exact h.1.1

/-- A scheme is told from the text that it starts. -/
theorem IsClean.scheme_of_front {rest : List Char} (h : w.IsClean) (hsome : w.scheme.isSome)
    (hs : IsScheme scheme) (hfront : (w.withFragment none).toChars = scheme ++ ':' :: rest) :
    w.scheme = some scheme := by
  obtain ⟨name, hname⟩ := Option.isSome_iff_exists.1 hsome
  have hsplit := splitScheme_front h hname
  rw [hfront, splitScheme_append hs] at hsplit
  rw [hname]
  exact (congrArg Prod.fst (Except.ok.inj hsplit)).symm

theorem endsPath_head?_parts (query fragment : Option (List Char)) :
    ∀ c ∈ (part ['?'] query ++ part ['#'] fragment).head?, Url.endsPath c = true := by
  cases query <;> cases fragment <;> simp [part, Url.endsPath]

theorem hierarchyText_eq (text : List Char) :
    hierarchyText text = (afterScheme text).takeWhile (!Url.endsPath ·) := by
  have hends : (fun c : Char => decide (c ≠ '?') && decide (c ≠ '#')) = (!Url.endsPath ·) := by
    funext c
    simp [Url.endsPath]
  rw [hierarchyText, hends]

theorem unbracketed_hierarchyText (h : Url.IsOpenText text) :
    IsUnbracketed (hierarchyText text) := by
  rw [hierarchyText_eq, afterScheme]
  split
  · exact h
  · rename_i name rest hcut
    obtain ⟨rfl, hname⟩ := schemeCut?_eq_some_iff.1 hcut
    refine Url.IsOpenText.tail (c := ':') (.of_append _ h fun c hc => ?_) (by decide)
    have hinner := hname c hc
    simp only [isInner, Bool.and_eq_true, decide_eq_true_eq] at hinner
    exact Url.endsPath_eq_false_iff.2 ⟨hinner.1.2, hinner.2⟩

theorem notMem_of_isScheme {c : Char} (h : IsScheme scheme) (hc : isSchemeChar c = false) :
    c ∉ scheme := by
  intro hm
  rw [(isSchemeName_iff.1 h.1).2 c hm] at hc
  cases hc

theorem unbracketed_of_isScheme (h : IsScheme scheme) : IsUnbracketed scheme :=
  forall_mem_of_isScheme h (by decide)

theorem isInner_of_isScheme (h : IsScheme scheme) : ∀ c ∈ scheme, isInner c = true :=
  forall_mem_of_isScheme h (by decide)

theorem scheme_of_schemeCut? (h : parse text = .ok w) (hc : schemeCut? text = none) :
    w.scheme = none := by
  rcases toChars_cases_of_parse h with ⟨-, hchars⟩ | ⟨name, rest, hcut, -⟩
  · by_contra hne
    obtain ⟨scheme, hs⟩ := Option.ne_none_iff_exists'.1 hne
    have hname := isInner_of_isScheme ((isClean_of_parse h).scheme scheme hs)
    rw [← hchars, toChars_eq, hs, schemePart, List.append_assoc, List.append_assoc,
      List.singleton_append, schemeCut?_eq_some_iff.2 ⟨rfl, hname⟩] at hc
    cases hc
  · rw [hc] at hcut
    cases hcut

theorem IsClean.isOpenText_toChars (h : w.IsClean) (hw : IsUnbracketed w.hierarchy) :
    Url.IsOpenText w.toChars := by
  have hscheme : IsUnbracketed (schemePart w.scheme) := by
    cases hs : w.scheme with
    | none => exact .nil
    | some scheme =>
      exact IsUnbracketed.append_iff.2 ⟨unbracketed_of_isScheme (h.scheme scheme hs),
        List.forall_mem_singleton.2 (by decide)⟩
  rw [toChars_eq, ← List.append_assoc, List.append_assoc]
  exact .of_unbracketed (IsUnbracketed.append_iff.2 ⟨hscheme, hw⟩) (endsPath_head?_parts _ _)

theorem IsRelative.isOpenText_toChars_iff (h : w.IsRelative) :
    Url.IsOpenText w.toChars ↔ IsUnbracketed w.hierarchy := by
  refine ⟨fun ht => ?_, h.clean.isOpenText_toChars⟩
  have hends : ∀ c ∈ w.hierarchy, Url.endsPath c = false := by
    intro c hc
    have hfront : c ∈ (w.withFragment none).toChars := by
      rw [front_of_scheme_eq_none h.scheme]
      exact List.mem_append_left _ hc
    exact Url.endsPath_eq_false_iff.2
      ⟨fun he => h.question (he ▸ hc), fun he => notMem_front h.clean (he ▸ hfront)⟩
  rw [toChars_of_scheme_eq_none h.scheme, List.append_assoc] at ht
  exact ((Url.IsOpenText.append_iff hends).1 ht).1

/-! ## Entries -/

/-- The text of an archive in front of the `!`: a scheme that no slash follows, and a path. -/
structure IsArchive (scheme path : List Char) : Prop where
  scheme : IsScheme scheme
  head : path.head? ≠ some '/'
  sharp : '#' ∉ path
  bang : '!' ∉ path

/-- An entry behind the `!` of an archive. -/
def entryText (scheme path inside : List Char) : List Char :=
  scheme ++ ':' :: (path ++ '!' :: inside)

theorem IsClean.exists_isArchive {archive inside : List Char} (hu : u.IsClean) (ho : u.isOpaque)
    (hcut : Text.cut? '!' (u.withFragment none).toChars = some (archive, inside)) :
    ∃ scheme path, u.scheme = some scheme ∧ archive = scheme ++ ':' :: path ∧
      IsArchive scheme path := by
  obtain ⟨name, rest, hname, hrest, hfront⟩ := hu.front_of_isOpaque ho
  have hs := hu.scheme_of_front (isSome_scheme_of_isOpaque ho) hname hfront
  have hbang : '!' ∉ name ++ [':'] := by
    simp [notMem_of_isScheme hname (by decide : isSchemeChar '!' = false)]
  have hsharp := notMem_front hu
  rw [hfront, ← List.singleton_append, ← List.append_assoc] at hcut hsharp
  rw [Text.cut?_append_of_notMem hbang] at hcut
  obtain ⟨⟨path, more⟩, hpath, hpair⟩ := Option.map_eq_some_iff.1 hcut
  obtain ⟨rfl, rfl⟩ := Prod.mk.inj hpair
  obtain ⟨rfl, hplain⟩ := Text.cut?_eq_some hpath
  refine ⟨name, path, hs, by simp, hname, ?_, ?_, hplain⟩
  · cases path with
    | nil => nofun
    | cons c rest => exact hrest
  · exact fun hm => hsharp (List.mem_append_right _ (List.mem_append_left _ hm))

namespace IsArchive

variable {inside : List Char}

theorem schemeCut?_entryText (h : IsArchive scheme path) (inside : List Char) :
    schemeCut? (entryText scheme path inside) = some (scheme, path ++ '!' :: inside) :=
  schemeCut?_eq_some_iff.2 ⟨rfl, isInner_of_isScheme h.scheme⟩

theorem hierarchyText_entryText (h : IsArchive scheme path) (inside : List Char) :
    hierarchyText (entryText scheme path inside) =
      (path ++ '!' :: inside).takeWhile (!Url.endsPath ·) := by
  rw [hierarchyText_eq, afterScheme, h.schemeCut?_entryText]

/-- Behind a query nothing is left that brackets could stand in. -/
theorem hierarchyText_of_question (h : IsArchive scheme path) (hq : '?' ∈ path)
    (inside : List Char) :
    hierarchyText (entryText scheme path inside) = path.takeWhile (!Url.endsPath ·) := by
  obtain ⟨before, after, rfl, -⟩ := List.eq_append_cons_of_mem hq
  have hquestion : (!Url.endsPath '?') = false := by decide
  rw [h.hierarchyText_entryText, List.append_assoc, List.cons_append,
    Text.takeWhile_append_cons hquestion, Text.takeWhile_append_cons hquestion]

/-- The path of an archive without query goes on with that of its entry. -/
theorem hierarchyText_of_no_question (h : IsArchive scheme path) (hq : '?' ∉ path)
    (inside : List Char) :
    hierarchyText (entryText scheme path inside) =
      path ++ '!' :: inside.takeWhile (!Url.endsPath ·) := by
  have hends : ∀ c ∈ path, (!Url.endsPath c) = true := by
    intro c hc
    rw [Bool.not_eq_true', Url.endsPath_eq_false_iff]
    exact ⟨fun he => hq (he ▸ hc), fun he => h.sharp (he ▸ hc)⟩
  rw [h.hierarchyText_entryText, List.takeWhile_append_of_pos hends, List.takeWhile_cons]
  rfl

/-- An archive has no authority. -/
theorem not_slashes (h : IsArchive scheme path) (inside : List Char) :
    ¬['/', '/'] <+: path ++ '!' :: inside := by
  rintro ⟨rest, hrest⟩
  cases path with
  | nil => exact absurd (List.cons.inj hrest).1 (by decide)
  | cons c more => exact h.head (congrArg some (List.cons.inj hrest).1.symm)

/-- **Which texts can be entries of an archive**: behind a query all, and else those without
brackets in front of a query of their own. -/
theorem isReferenceText_iff (h : IsArchive scheme path)
    (hbase : IsReferenceText (entryText scheme path inside)) (hw : IsWritable target)
    (hsharp : target.count '#' ≤ 1) :
    IsReferenceText (entryText scheme path target) ↔ '?' ∈ path ∨ Url.IsOpenText target := by
  have hwritable (inside : List Char) : IsWritable (entryText scheme path inside) ↔
      IsWritable (scheme ++ ':' :: path) ∧ IsWritable inside := by
    have hchars : entryText scheme path inside = (scheme ++ ':' :: path) ++ '!' :: inside := by
      simp [entryText]
    rw [hchars, isWritable_append_cons (by decide) (by decide) (by decide)]
  have hcount : (entryText scheme path target).count '#' = target.count '#' := by
    have hscheme := notMem_of_isScheme h.scheme (by decide : isSchemeChar '#' = false)
    simp [entryText, List.count_eq_zero.2 hscheme, List.count_eq_zero.2 h.sharp]
  rw [Uri.isReferenceText_iff] at hbase ⊢
  obtain ⟨hbasew, -, -, hbrackets⟩ := hbase
  have hnames : ∀ name rest, schemeCut? (entryText scheme path target) = some (name, rest) →
      isSchemeName name = true := by
    rintro name rest hcut
    rw [h.schemeCut?_entryText] at hcut
    cases hcut
    exact h.scheme.1
  rw [hwritable, hcount, and_iff_right ⟨((hwritable _).1 hbasew).1, hw⟩, and_iff_right hsharp,
    and_iff_right hnames]
  by_cases hq : '?' ∈ path
  · rw [h.hierarchyText_of_question hq] at hbrackets ⊢
    exact iff_of_true hbrackets (.inl hq)
  · rw [h.hierarchyText_of_no_question hq] at hbrackets ⊢
    have hpath := (IsUnbracketed.append_iff.1 (hbrackets.resolve_left (h.not_slashes _))).1
    rw [or_iff_right (h.not_slashes _), or_iff_right hq, IsUnbracketed.append_iff,
      IsUnbracketed.cons_iff, and_iff_right hpath, and_iff_right (by decide)]
    rfl

/-- An entry that can be read has no brackets in front of a query, unless its archive has one. -/
theorem isOpenText (h : IsArchive scheme path)
    (hbase : IsReferenceText (entryText scheme path inside)) (hq : '?' ∉ path) :
    Url.IsOpenText inside := by
  have hbrackets := hbase.brackets
  rw [h.hierarchyText_of_no_question hq] at hbrackets
  have hopen := (IsUnbracketed.append_iff.1 (hbrackets.resolve_left (h.not_slashes _))).2
  exact (IsUnbracketed.cons_iff.1 hopen).2

/-- What is put back into an archive is read as an entry of it. -/
theorem of_parse (h : IsArchive scheme path) (hw : parse (entryText scheme path target) = .ok w) :
    w.isOpaque ∧ w.scheme = some scheme ∧
      (w.withFragment none).toChars = entryText scheme path (target.takeWhile (· ≠ '#')) := by
  have hclean := isClean_of_parse hw
  have hflat : w.isOpaque := by
    refine isOpaque_of_parse h.scheme ?_ hw
    cases path with
    | nil => exact fun he => absurd (Option.some.inj he) (by decide)
    | cons c rest => exact h.head
  have hchars : w.toChars = entryText scheme path target := by
    rw [toChars_of_parse hw, lowerScheme, h.schemeCut?_entryText]
    exact congrArg (· ++ _) h.scheme.2
  have hsharp : ∀ c ∈ scheme ++ ':' :: (path ++ ['!']), (decide (c ≠ '#')) = true := by
    intro c hc
    rw [decide_eq_true_eq]
    rintro rfl
    have hscheme := notMem_of_isScheme h.scheme (by decide : isSchemeChar '#' = false)
    simp [hscheme, h.sharp] at hc
  have hsplit (inside : List Char) : entryText scheme path inside =
      (scheme ++ ':' :: (path ++ ['!'])) ++ inside := by
    simp [entryText]
  have hfront : (w.withFragment none).toChars =
      entryText scheme path (target.takeWhile (· ≠ '#')) := by
    rw [hclean.front_eq_takeWhile, hchars, hsplit, hsplit, List.takeWhile_append_of_pos hsharp]
  exact ⟨hflat, hclean.scheme_of_front (isSome_scheme_of_isOpaque hflat) h.scheme hfront,
    hfront⟩

end IsArchive

/-! ## What entries resolve -/

/-- What a reference without scheme is resolved to: itself, what it is merged to, or what the URL
of the base and its text make. -/
theorem resolve_cases (hv : v.scheme = none) (hn : v.normalize = v) :
    u.resolve v = v ∨ (u.scheme = none ∧ u.resolve v = u.mergeRelative v) ∨
      ∃ x y, u.toUrl? = some x ∧ x.join v.toChars = .ok y ∧
        parse y.toChars = .ok (u.resolve v) := by
  cases hs : u.scheme with
  | none => exact .inr (.inl ⟨rfl, resolve_of_scheme_eq_none hs hv⟩)
  | some scheme =>
    cases ho : u.isOpaque with
    | true =>
      rw [resolve, ho, Bool.or_true, if_pos rfl, hn]
      exact .inl rfl
    | false =>
      rw [resolve, hv, ho, hs, hn]
      cases hjoin : u.toUrl?.bind fun x => ((x.join v.toChars).toOption).bind ofUrl? with
      | none => exact .inl rfl
      | some w =>
        obtain ⟨x, hx, hw⟩ := Option.bind_eq_some_iff.1 hjoin
        obtain ⟨y, hy, hw⟩ := Option.bind_eq_some_iff.1 hw
        exact .inr (.inr ⟨x, y, hx, toOption_eq_some.1 hy, toOption_eq_some.1 hw⟩)

/-- What is resolved is written with characters and escapes of references. -/
theorem isWritable_resolve (hu : parse text = .ok u) (hv : v.IsRelative) (hn : v.normalize = v) :
    IsWritable (u.resolve v).toChars := by
  rcases resolve_cases (u := u) hv.scheme hn with h | ⟨hs, h⟩ | ⟨x, y, -, -, h⟩
  · rw [h]
    exact hv.isWritable_toChars
  · rw [h]
    exact ((isRelative_of_parse hu hs).mergeRelative hv).isWritable_toChars
  · exact (parse_eq_ok_iff.1 (parse_toChars_self h)).1

/-- **Resolution brings in no brackets** in front of the query. -/
theorem unbracketed_resolve (hu : parse text = .ok u) (ht : Url.IsOpenText text)
    (hv : v.IsRelative) (hn : v.normalize = v) (ho : IsUnbracketed v.hierarchy) :
    IsUnbracketed (u.resolve v).hierarchy := by
  have hentry : IsUnbracketed u.hierarchy := by
    rw [hierarchy_of_parse hu]
    exact unbracketed_hierarchyText ht
  have hclean := isClean_of_parse hu
  rcases resolve_cases (u := u) hv.scheme hn with h | ⟨-, h⟩ | ⟨x, y, hx, hy, h⟩
  · rwa [h]
  · rw [h]
    intro c hc
    rcases mem_hierarchy_mergeRelative hc with rfl | hc | hc
    · exact ⟨by decide, by decide⟩
    · exact hentry c hc
    · exact ho c hc
  · have hread : Url.parseWith none u.toChars = .ok x := toOption_eq_some.1 hx
    have hbase : x.IsOpen :=
      .of_parseWith (fun _ hb => by cases hb) hclean.lt_of_mem
        (hclean.isOpenText_toChars hentry) hread
    have hjoin : Url.parseWith (some x) v.toChars = .ok y := hy
    have hjoined : y.IsOpen := by
      refine .of_parseWith ?_ hv.clean.lt_of_mem (hv.clean.isOpenText_toChars ho) hjoin
      rintro _ ⟨⟩
      exact hbase
    rw [hierarchy_of_parse h]
    exact unbracketed_hierarchyText hjoined.isOpenText_toChars

/-- A reference whose authority or path has brackets replaces both. -/
theorem hierarchy_mergeRelative_of_brackets (hv : v.IsRelative) (hn : v.normalize = v)
    (hb : ¬IsUnbracketed v.hierarchy) : (u.mergeRelative v).hierarchy = v.hierarchy := by
  obtain ⟨a, ha⟩ : ∃ a, v.authority = some a := by
    by_contra hnone
    have hnone := Option.eq_none_iff_forall_ne_some.2 (not_exists.1 hnone)
    refine hb ?_
    rw [hierarchy, hnone]
    exact hv.brackets hnone
  have hpath : removeDotSegments v.path = v.path := by
    rw [normalize_of_scheme_eq_none hv.scheme] at hn
    exact congrArg Uri.path hn
  simp only [mergeRelative, ha, Option.isSome_some, if_true, hierarchy, hpath]

end Uri

namespace Reference

open Uri (IsReferenceText IsUnbracketed IsArchive entryText)

variable {base other : Reference} {text text' : String} {archive inside scheme path : List Char}

/-! ## References -/

/-- A reference that cannot be put back into an archive stays as it is. -/
theorem resolve_of_resolveInArchive?_eq_none (ho : base.uri.isOpaque)
    (h : parse text = .ok other) (hs : other.scheme = none)
    (hr : resolveInArchive? base other = none) : base.resolve other = other := by
  obtain ⟨-, hn, hcase⟩ := relative_of_parse h hs
  rw [resolve_of_isOpaque ho hs, hr, Option.getD_none, hn]
  by_cases he : other = empty
  · rw [he]
    rfl
  · refine ofUri_of_normalize_eq_self hn (fun hnil => he ?_) (hcase.resolve_left he)
    exact congrArg Reference.mk (Uri.eq_empty_of_toChars_eq_nil hnil)

/-- Whether a reference leads into the archive of a base: its locator goes on behind the `!` of the
base, and the fetcher of archives opens the same archive for both. -/
structure StaysWithin (base : Reference) (archive : List Char) (r : Reference) : Prop where
  locator : archive ++ ['!'] <+: r.locator
  fetched : ∃ path name name', Fetcher.splitArchive base = .ok (path, name) ∧
    Fetcher.splitArchive r = .ok (path, name')

theorem splitArchive_of_scheme_eq_none (hs : other.scheme = none) :
    Fetcher.splitArchive other = .error (.invalidLocator other.locator .notArchive) := by
  rw [Fetcher.splitArchive, hs]
  rfl

/-- What the fetcher of archives opens, and what it looks for there. -/
theorem splitArchive_eq (hs : base.scheme = some scheme) (ha : archiveSchemes.contains scheme)
    (hl : base.locator = entryText scheme path inside) (hb : '!' ∉ path) :
    Fetcher.splitArchive base = .ok (path, Percent.decode (inside.dropWhile (· = '/'))) := by
  have hdrop : base.locator.drop (scheme.length + 1) = path ++ '!' :: inside := by
    rw [hl, entryText, ← List.singleton_append, ← List.append_assoc]
    exact List.drop_left' (by simp)
  rw [Fetcher.splitArchive, hs, Option.filter_some, if_pos ha]
  simp only [hdrop, Text.cut?_append hb]

/-- A reference to an entry of an archive. -/
structure IsEntry (base : Reference) (scheme path inside : List Char) : Prop where
  archive : IsArchive scheme path
  named : archiveSchemes.contains scheme
  hasScheme : base.scheme = some scheme
  locator : base.locator = entryText scheme path inside
  grammar : IsReferenceText base.locator
  noHierarchy : base.uri.isOpaque

theorem exists_isEntry (hclean : base.uri.IsClean) (hg : IsReferenceText base.locator)
    (ho : base.uri.isOpaque) (ha : base.scheme.any archiveSchemes.contains)
    (hcut : Text.cut? '!' base.locator = some (archive, inside)) :
    ∃ scheme path, archive = scheme ++ ':' :: path ∧ base.IsEntry scheme path inside := by
  obtain ⟨scheme, path, hs, rfl, hpath⟩ := hclean.exists_isArchive ho hcut
  have hscheme : base.scheme = some scheme := hs
  rw [hscheme] at ha
  refine ⟨scheme, path, rfl, hpath, ha, hscheme, ?_, hg, ho⟩
  rw [(Text.cut?_eq_some hcut).1, entryText, List.append_assoc, List.cons_append]

theorem exists_isEntry_of_parse (h : parse text = .ok base) (ho : base.uri.isOpaque)
    (ha : base.scheme.any archiveSchemes.contains)
    (hcut : Text.cut? '!' base.locator = some (archive, inside)) :
    ∃ scheme path, archive = scheme ++ ':' :: path ∧ base.IsEntry scheme path inside := by
  have hread := parse_locator h (Uri.isSome_scheme_of_isOpaque ho) (.inl ho)
  exact exists_isEntry (isClean_of_isNormal (isNormal_of_parse h))
    (Uri.exists_ok_parse_iff.1 ⟨_, hread⟩) ho ha hcut

namespace IsEntry

variable {w : Uri}

theorem cut?_locator (h : base.IsEntry scheme path inside) :
    Text.cut? '!' base.locator = some (scheme ++ ':' :: path, inside) := by
  have hbang : '!' ∉ scheme ++ ':' :: path := by
    have hscheme := Uri.notMem_of_isScheme h.archive.scheme
      (by decide : Uri.isSchemeChar '!' = false)
    simp [hscheme, h.archive.bang]
  rw [h.locator, entryText, ← List.cons_append, ← List.append_assoc, Text.cut?_append hbang]

theorem resolveInArchive?_eq_some_iff (h : base.IsEntry scheme path inside) :
    resolveInArchive? base other = some w ↔ ∃ entry, Uri.parse inside = .ok entry ∧
      Uri.parse (entryText scheme path (entry.resolve other.uri).toChars) = .ok w := by
  have hnamed : base.scheme.any archiveSchemes.contains = true := by
    rw [h.hasScheme]
    exact h.named
  simp [resolveInArchive?, hnamed, h.cut?_locator, entryText, Option.bind_eq_some_iff,
    Uri.toOption_eq_some]

/-- When a reference is put back into an archive. -/
theorem exists_resolveInArchive?_iff (h : base.IsEntry scheme path inside)
    (h' : parse text' = .ok other) (hs : other.scheme = none) :
    (∃ w, resolveInArchive? base other = some w) ↔ ∃ entry, Uri.parse inside = .ok entry ∧
      ('?' ∈ path ∨ Url.IsOpenText (entry.resolve other.uri).toChars) := by
  obtain ⟨hrelative, hnormal, -⟩ := relative_of_parse h' hs
  simp only [h.resolveInArchive?_eq_some_iff]
  rw [exists_comm]
  refine exists_congr fun entry => ?_
  rw [exists_and_left]
  refine and_congr_right fun hentry => ?_
  rw [Uri.exists_ok_parse_iff]
  exact h.archive.isReferenceText_iff (h.locator ▸ h.grammar)
    (Uri.isWritable_resolve hentry hrelative hnormal)
    ((Uri.isClean_of_parse hentry).resolve hrelative.clean).count_sharp

/-- What is put back into an archive is within the archive. -/
theorem staysWithin (h : base.IsEntry scheme path inside) (hs : other.scheme = none)
    (hr : resolveInArchive? base other = some w) :
    base.StaysWithin (scheme ++ ':' :: path) (base.resolve other) := by
  obtain ⟨entry, -, hw⟩ := h.resolveInArchive?_eq_some_iff.1 hr
  obtain ⟨hflat, hscheme, hlocator⟩ := h.archive.of_parse hw
  have hresolve : base.resolve other = ⟨w⟩ := by
    rw [resolve_of_isOpaque h.noHierarchy hs, hr, Option.getD_some]
    exact ofUri_of_scheme (Uri.normalize_of_isOpaque hflat) (by rw [hscheme]; rfl)
  rw [hresolve]
  refine ⟨⟨(entry.resolve other.uri).toChars.takeWhile (· ≠ '#'), ?_⟩, path, _, _,
    splitArchive_eq h.hasScheme h.named h.locator h.archive.bang,
    splitArchive_eq hscheme h.named hlocator h.archive.bang⟩
  rw [Reference.locator, hlocator, entryText]
  simp

/-- A reference stays within an archive exactly if it is put back into it: as it is, it has no
scheme, so the fetcher of archives refuses it. -/
theorem staysWithin_iff (h : base.IsEntry scheme path inside) (h' : parse text' = .ok other)
    (hs : other.scheme = none) :
    base.StaysWithin (scheme ++ ':' :: path) (base.resolve other) ↔
      ∃ w, resolveInArchive? base other = some w := by
  refine ⟨fun hstays => ?_, fun ⟨w, hw⟩ => h.staysWithin hs hw⟩
  by_contra hnone
  rw [not_exists, ← Option.eq_none_iff_forall_ne_some] at hnone
  rw [resolve_of_resolveInArchive?_eq_none h.noHierarchy h' hs hnone] at hstays
  obtain ⟨_, _, _, -, hother⟩ := hstays.fetched
  rw [splitArchive_of_scheme_eq_none hs] at hother
  cases hother

/-- A reference without brackets in front of its query stays within an archive, and every one
stays behind a query. -/
theorem staysWithin_of_unbracketed (h : base.IsEntry scheme path inside)
    (h' : parse text' = .ok other) (hs : other.scheme = none) (hread : IsReferenceText inside)
    (hopen : '?' ∈ path ∨ IsUnbracketed other.uri.hierarchy) :
    base.StaysWithin (scheme ++ ':' :: path) (base.resolve other) := by
  obtain ⟨hrelative, hnormal, -⟩ := relative_of_parse h' hs
  obtain ⟨entry, hparse⟩ := Uri.exists_ok_parse_iff.2 hread
  rw [h.staysWithin_iff h' hs, h.exists_resolveInArchive?_iff h' hs]
  refine ⟨entry, hparse, or_iff_not_imp_left.2 fun hq => ?_⟩
  have hclean := (Uri.isClean_of_parse hparse).resolve hrelative.clean
  have hinside := h.archive.isOpenText (h.locator ▸ h.grammar) hq
  exact hclean.isOpenText_toChars
    (Uri.unbracketed_resolve hparse hinside hrelative hnormal (hopen.resolve_left hq))

/-- No other reference stays within an archive, if the entry has no scheme. -/
theorem unbracketed_of_staysWithin (h : base.IsEntry scheme path inside)
    (h' : parse text' = .ok other) (hs : other.scheme = none)
    (hplain : Uri.schemeCut? inside = none)
    (hstays : base.StaysWithin (scheme ++ ':' :: path) (base.resolve other)) :
    IsReferenceText inside ∧ ('?' ∈ path ∨ IsUnbracketed other.uri.hierarchy) := by
  obtain ⟨hrelative, hnormal, -⟩ := relative_of_parse h' hs
  rw [h.staysWithin_iff h' hs, h.exists_resolveInArchive?_iff h' hs] at hstays
  obtain ⟨entry, hparse, hopen⟩ := hstays
  refine ⟨Uri.exists_ok_parse_iff.1 ⟨entry, hparse⟩, hopen.imp_right fun hopen => ?_⟩
  have hnone := Uri.scheme_of_schemeCut? hparse hplain
  have hmerged := (Uri.isRelative_of_parse hparse hnone).mergeRelative hrelative
  by_contra hbrackets
  rw [Uri.resolve_of_scheme_eq_none hnone hrelative.scheme, hmerged.isOpenText_toChars_iff,
    Uri.hierarchy_mergeRelative_of_brackets hrelative hnormal hbrackets] at hopen
  exact hbrackets hopen

end IsEntry

/-- **Which references stay within an archive.** A reference without scheme keeps its fragment, and
it is either resolved within the archive or not at all. It is resolved if the entry is itself a
reference, and if the reference has no brackets in front of its query or the archive has a query;
only then, if the entry has no scheme, as one that starts with a slash. -/
theorem resolve_within_archive (h : parse text = .ok base) (ho : base.uri.isOpaque)
    (ha : base.scheme.any archiveSchemes.contains)
    (hcut : Text.cut? '!' base.locator = some (archive, inside)) (h' : parse text' = .ok other)
    (hs : other.scheme = none) :
    (base.resolve other).fragment = other.fragment ∧
      (base.StaysWithin archive (base.resolve other) ∨ base.resolve other = other) ∧
      (IsReferenceText inside ∧ ('?' ∈ archive ∨ IsUnbracketed other.uri.hierarchy) →
        base.StaysWithin archive (base.resolve other)) ∧
      (Uri.schemeCut? inside = none → base.StaysWithin archive (base.resolve other) →
        IsReferenceText inside ∧ ('?' ∈ archive ∨ IsUnbracketed other.uri.hierarchy)) := by
  obtain ⟨scheme, path, rfl, hentry⟩ := exists_isEntry_of_parse h ho ha hcut
  have hquestion : '?' ∈ scheme ++ ':' :: path ↔ '?' ∈ path := by
    have hscheme := Uri.notMem_of_isScheme hentry.archive.scheme
      (by decide : Uri.isSchemeChar '?' = false)
    simp [hscheme]
  rw [hquestion]
  refine ⟨?_, ?_, fun ⟨hread, hopen⟩ => hentry.staysWithin_of_unbracketed h' hs hread hopen,
    hentry.unbracketed_of_staysWithin h' hs⟩
  · have hjson : ofJson (.str text') = .ok other := h'
    exact fragment_resolve (isNormal_of_parse h) hjson
  · cases hr : resolveInArchive? base other with
    | some w => exact .inl (hentry.staysWithin hs hr)
    | none => exact .inr (resolve_of_resolveInArchive?_eq_none ho h' hs hr)

/-- An entry of an archive of a local file. -/
def zipped : Reference :=
  ⟨⟨some "jar".toList, none, "file:/p/my.jar!/a/b.json".toList, none, none⟩⟩

/-- A reference that climbs out of the directory of an entry, with a fragment. -/
theorem resolve_within_archive_climbing :
    ∃ other, parse "../../c.json?v#/x%20y" = .ok other ∧
      zipped.StaysWithin "jar:file:/p/my.jar".toList (zipped.resolve other) ∧
      (zipped.resolve other).fragment = other.fragment := by
  have hbase : parse "jar:file:/p/my.jar!/a/b.json" = .ok zipped := by cbv
  have hother : ∃ other, parse "../../c.json?v#/x%20y" = .ok other ∧ other.scheme = none ∧
      other.uri.hierarchy = "../../c.json".toList := ⟨_, by cbv, rfl, by cbv⟩
  obtain ⟨other, hparse, hs, hhierarchy⟩ := hother
  have hcut : Text.cut? '!' zipped.locator =
      some ("jar:file:/p/my.jar".toList, "/a/b.json".toList) := by cbv
  obtain ⟨hfragment, -, hstays, -⟩ :=
    resolve_within_archive hbase (by decide) (by decide) hcut hparse hs
  have hinside : ∃ entry, Uri.parse "/a/b.json".toList = .ok entry := ⟨_, by cbv⟩
  refine ⟨other, hparse, hstays ⟨Uri.exists_ok_parse_iff.1 hinside, .inr ?_⟩, hfragment⟩
  rw [hhierarchy]
  exact List.all_iff_forall_prop.1 (by decide)

/-- A reference with an address for its authority. -/
def addressed : Reference :=
  ⟨⟨none, some "[::1]".toList, "/y".toList, none, none⟩⟩

/-- **A reference that leaves an archive**: the address in its authority has brackets. -/
theorem resolve_leaves_archive_addressed :
    parse "jar:file:/p/my.jar!/a/b.json" = .ok zipped ∧ zipped.uri.isOpaque ∧
      parse "//[::1]/y" = .ok addressed ∧ addressed.scheme = none ∧
      Text.cut? '!' zipped.locator = some ("jar:file:/p/my.jar".toList, "/a/b.json".toList) ∧
      ¬"jar:file:/p/my.jar!".toList <+: (zipped.resolve addressed).locator := by
  have hlocator : (zipped.resolve addressed).locator = "//[::1]/y".toList := by cbv
  refine ⟨by cbv, by decide, by cbv, rfl, by cbv, ?_⟩
  rw [hlocator]
  decide

end Reference

end JsonSchema
