import JsonSchema.Proofs.Locator
import Mathlib

/-!
# References that are read back

The text of a reference without scheme is split again at its first `:`, `//`, `?` and `#`. Dot
segments in front of a path keep what follows them from being read as a scheme or as an authority;
the normal form has no such segments.

* `Uri.parse_toChars`: what the text of a reference without scheme is read as.
* `Uri.scheme_of_parse_toChars`: when it is read as a text with a scheme.
* `Reference.reads_back_iff`: which references without scheme are read back as they are.
-/

namespace JsonSchema

namespace Uri

variable {u w : Uri} {text path : List Char}

/-! ## Schemes -/

/-- Whether the first segment of a path holds a colon, so that a text that starts with the path
has the form of one with a scheme. -/
def startsLikeScheme (path : List Char) : Bool :=
  ':' ∈ path.takeWhile (· ≠ '/')

/-- Characters before which a colon ends a scheme. -/
def inFirstPiece (c : Char) : Bool :=
  c ≠ '/' && c ≠ '?'

/-- A text has no scheme exactly if no colon stands before the first `/` and `?`. -/
theorem splitScheme_eq_none_iff {rest : List Char} :
    splitScheme text = .ok (none, rest) ↔ ':' ∉ text.takeWhile inFirstPiece ∧ text = rest := by
  have hclass : (fun c : Char => decide (c = '/') || decide (c = '?')) = (!inFirstPiece ·) := by
    funext c
    simp [inFirstPiece]
  unfold splitScheme
  cases hc : Text.cut? ':' text with
  | none =>
    have hn : ':' ∉ text.takeWhile inFirstPiece := fun hm =>
      Text.notMem_of_cut?_eq_none hc ((List.takeWhile_sublist _).subset hm)
    simp [hn]
  | some p =>
    obtain ⟨before, after⟩ := p
    obtain ⟨ht, hb⟩ := Text.cut?_eq_some hc
    have hbool : (before.any fun c => c = '/' || c = '?') = !before.all inFirstPiece := by
      rw [hclass, List.not_all_eq_any_not]
    simp only [hbool]
    cases hall : before.all inFirstPiece with
    | true =>
      -- The colon is in the first piece, so this is a scheme or no reference at all.
      have hm : ':' ∈ text.takeWhile inFirstPiece := by
        rw [ht, List.takeWhile_append_of_pos (List.all_eq_true.1 hall)]
        exact List.mem_append_right _ (List.mem_cons_self)
      simp only [Bool.not_true, Bool.false_eq_true, if_false]
      split <;> simp [hm]
    | false =>
      have hn : ':' ∉ text.takeWhile inFirstPiece := by
        obtain ⟨d, hd, hout⟩ := List.all_eq_false.1 hall
        obtain ⟨start, rest, rfl⟩ := List.append_of_mem hd
        rw [ht, List.append_assoc, List.cons_append,
          Text.takeWhile_append_cons (Bool.eq_false_iff.2 hout)]
        exact fun hm => hb (List.mem_append_left _ ((List.takeWhile_sublist _).subset hm))
      simp [hn]

/-! ## References without scheme -/

/-- Authority and path as text. -/
def hierarchy (w : Uri) : List Char :=
  part ['/', '/'] w.authority ++ w.path

/-- A reference without scheme each part of which ends where the next one starts. -/
structure IsRelative (w : Uri) : Prop where
  clean : w.IsClean
  scheme : w.scheme = none
  authority : ∀ a, w.authority = some a → '/' ∉ a
  path : w.authority.isSome → w.path = [] ∨ w.path.head? = some '/'
  brackets : w.authority = none → ∀ c ∈ w.path, c ≠ '[' ∧ c ≠ ']'
  question : '?' ∉ w.hierarchy
  writableAuthority : IsWritable (w.authority.getD [])
  writablePath : IsWritable w.path
  writableQuery : IsWritable (w.query.getD [])
  writableFragment : IsWritable (w.fragment.getD [])

theorem toChars_of_scheme_eq_none (hs : w.scheme = none) :
    w.toChars = w.hierarchy ++ part ['?'] w.query ++ part ['#'] w.fragment := by
  rw [toChars_eq, hs]
  simp [schemePart, hierarchy]

theorem isWritable_append_part {c : Char} (hc : CharClass.isHexDigit c = false) (hp : c ≠ '%')
    (hf : isForbidden c = false) (rest : Option (List Char)) :
    IsWritable (text ++ part [c] rest) ↔ IsWritable text ∧ IsWritable (rest.getD []) := by
  cases rest with
  | none =>
    rw [part, List.append_nil]
    exact (and_iff_left trivial).symm
  | some more => exact isWritable_append_cons hc hp hf

theorem isWritable_slash_cons : IsWritable ('/' :: text) ↔ IsWritable text := by
  have h : IsWritable ([] ++ '/' :: text) ↔ IsWritable [] ∧ IsWritable text :=
    isWritable_append_cons (by decide) (by decide) (by decide)
  exact h.trans (and_iff_right trivial)

theorem isWritable_hierarchy (hp : w.authority.isSome → w.path = [] ∨ w.path.head? = some '/') :
    IsWritable w.hierarchy ↔ IsWritable (w.authority.getD []) ∧ IsWritable w.path := by
  unfold hierarchy
  cases ha : w.authority with
  | none => exact (and_iff_right trivial).symm
  | some a =>
    have hslashes : IsWritable (part ['/', '/'] (some a) ++ w.path) ↔ IsWritable (a ++ w.path) :=
      isWritable_slash_cons.trans isWritable_slash_cons
    rw [hslashes, Option.getD_some]
    rcases hp (by rw [ha]; rfl) with hnil | hslash
    · rw [hnil, List.append_nil]
      exact (and_iff_left trivial).symm
    · obtain ⟨body, hbody⟩ := List.head?_eq_some_iff.1 hslash
      rw [hbody, isWritable_slash_cons]
      exact isWritable_append_cons (by decide) (by decide) (by decide)

/-- Pieces between slashes do not share an escape. -/
theorem isWritable_join {pieces : List (List Char)} :
    IsWritable (Text.join '/' pieces) ↔ ∀ p ∈ pieces, IsWritable p := by
  induction pieces with
  | nil => exact iff_of_true trivial nofun
  | cons piece rest ih =>
    cases rest with
    | nil => simp [Text.join]
    | cons next more =>
      rw [Text.join_cons '/' piece (List.cons_ne_nil _ _),
        isWritable_append_cons (by decide) (by decide) (by decide), ih]
      exact List.forall_mem_cons.symm

theorem isWritable_removeDotSegments (h : IsWritable path) :
    IsWritable (removeDotSegments path) := by
  have hresolve (absolute : Bool) {body : List Char} (hb : IsWritable body) :
      IsWritable (Text.join '/' (resolveSegments absolute (Text.split '/' body))) := by
    rw [← Text.join_split '/' body, isWritable_join] at hb
    rw [isWritable_join]
    intro p hp
    rcases mem_of_mem_resolveSegments hp with rfl | hm
    · trivial
    · exact hb p hm
  fun_cases removeDotSegments path with
  | case1 => exact h
  | case2 body => exact isWritable_slash_cons.2 (hresolve true (isWritable_slash_cons.1 h))
  | case3 => exact hresolve false h

theorem splitAuthority_eq_none_iff : (splitAuthority path).1 = none ↔ ¬['/', '/'] <+: path := by
  fun_cases splitAuthority path with
  | case1 after => simp
  | case2 _ hne =>
    refine iff_of_true rfl fun ⟨after, h⟩ => hne after ?_
    simpa using h.symm

/-- An authority ends where the path starts. -/
theorem of_splitAuthority {a : Option (List Char)} {rest : List Char}
    (h : splitAuthority path = (a, rest)) :
    (∀ t, a = some t → '/' ∉ t) ∧ (a.isSome → rest = [] ∨ rest.head? = some '/') := by
  revert h
  fun_cases splitAuthority path with
  | case1 after =>
    rintro ⟨⟩
    refine ⟨?_, fun _ => ?_⟩
    · rintro t ⟨⟩ hm
      simpa using List.mem_takeWhile_imp hm
    · have hstop := List.head?_dropWhile_not (fun c : Char => decide (c ≠ '/')) after
      cases hd : after.dropWhile (· ≠ '/') with
      | nil => exact .inl rfl
      | cons c rest =>
        rw [hd] at hstop
        exact .inr (by simpa using hstop)
  | case2 =>
    rintro ⟨⟩
    exact ⟨nofun, nofun⟩

theorem brackets_of_parseMain (h : parseMain text = .ok u) (ha : u.authority = none) :
    ∀ c ∈ u.path, c ≠ '[' ∧ c ≠ ']' := by
  obtain ⟨⟨scheme, rest⟩, -, h⟩ := bind_eq_ok_iff.1 h
  simp only at h
  split at h
  · obtain ⟨hbrackets, hu⟩ := check_bind_eq_ok_iff.1 h
    cases hu
    simpa using findIllegal_eq_ok_iff.1 hbrackets
  · rename_i hsome
    cases h
    exact absurd (Option.isNone_iff_eq_none.2 ha) hsome

/-- What is read from a text without scheme. -/
theorem isRelative_of_parse (h : parse text = .ok u) (hs : u.scheme = none) : u.IsRelative := by
  have hclean := isClean_of_parse h
  obtain ⟨hw, -, w, hm, rfl⟩ := parse_eq_ok_iff.1 h
  obtain ⟨hmain, hfragment⟩ := isWritable_splitOptional hw
  obtain ⟨rest, hsplit, -, hquery, hauthority⟩ := parseMain_eq_ok hm
  rw [show w.scheme = none from hs, splitScheme_eq_none_iff] at hsplit
  obtain ⟨hrest, hq⟩ := splitOptional_spec '?' rest
  rw [hquery] at hrest
  have hhier : w.hierarchy = (splitOptional '?' rest).1 := by
    have hspec := splitAuthority_spec (splitOptional '?' rest).1
    rw [hauthority] at hspec
    exact hspec
  obtain ⟨hslash, hpath⟩ := of_splitAuthority hauthority
  rw [hsplit.2, ← hrest, ← hhier,
    isWritable_append_part (by decide) (by decide) (by decide), isWritable_hierarchy hpath] at hmain
  exact ⟨hclean, hs, hslash, hpath, fun ha => brackets_of_parseMain (u := w) hm ha, hhier ▸ hq,
    hmain.1.1, hmain.1.2, hmain.2, hfragment⟩

theorem head?_removeDotSegments (h : path = [] ∨ path.head? = some '/') :
    removeDotSegments path = [] ∨ (removeDotSegments path).head? = some '/' := by
  rcases h with rfl | h
  · exact .inl rfl
  · obtain ⟨body, rfl⟩ := List.head?_eq_some_iff.1 h
    exact .inr rfl

/-- Removing dot segments changes nothing about where the parts end. -/
theorem IsRelative.normalize (h : w.IsRelative) : w.normalize.IsRelative := by
  have hclean := h.clean.normalize
  rw [normalize_of_scheme_eq_none h.scheme] at hclean ⊢
  refine ⟨hclean, h.scheme, h.authority, fun ha => head?_removeDotSegments (h.path ha), ?_, ?_,
    h.writableAuthority, isWritable_removeDotSegments h.writablePath, h.writableQuery,
    h.writableFragment⟩
  · intro ha c hc
    rcases mem_of_mem_removeDotSegments hc with rfl | hc
    · exact ⟨by decide, by decide⟩
    · exact h.brackets ha c hc
  · intro hm
    rcases List.mem_append.1 hm with hm | hm
    · exact h.question (List.mem_append_left _ hm)
    · rcases mem_of_mem_removeDotSegments hm with he | hm
      · exact absurd he (by decide)
      · exact h.question (List.mem_append_right _ hm)

/-! ## Reading a text again -/

/-- The reference that the text of a reference is read as: two slashes at the start of a path are
those of an authority. -/
def reread (w : Uri) : Uri :=
  { w with
    authority := (splitAuthority w.hierarchy).1
    path := (splitAuthority w.hierarchy).2 }

theorem hierarchy_reread (w : Uri) : w.reread.hierarchy = w.hierarchy :=
  splitAuthority_spec w.hierarchy

theorem toChars_reread (w : Uri) : w.reread.toChars = w.toChars := by
  have h := hierarchy_reread w
  unfold hierarchy at h
  rw [toChars_eq, toChars_eq, h]
  rfl

theorem takeWhile_inFirstPiece_append (hq : '?' ∉ path) (query : Option (List Char)) :
    (path ++ part ['?'] query).takeWhile inFirstPiece = path.takeWhile (· ≠ '/') := by
  have hpath : path.takeWhile inFirstPiece = path.takeWhile (· ≠ '/') := by
    induction path with
    | nil => rfl
    | cons c rest ih =>
      rw [List.mem_cons, not_or] at hq
      have hc : inFirstPiece c = decide (c ≠ '/') := by simp [inFirstPiece, Ne.symm hq.1]
      rw [List.takeWhile_cons, List.takeWhile_cons, hc, ih hq.2]
  rw [← hpath]
  cases query with
  | none => rw [part, List.append_nil]
  | some q => exact Text.takeWhile_append_cons (by decide)

/-- A text is read as one with a scheme if its path starts like one. -/
theorem colon_mem_iff (hq : '?' ∉ w.hierarchy) :
    ':' ∈ (w.hierarchy ++ part ['?'] w.query).takeWhile inFirstPiece ↔
      w.authority = none ∧ startsLikeScheme w.path := by
  cases ha : w.authority with
  | none =>
    have hhier : w.hierarchy = w.path := by
      rw [hierarchy, ha]
      rfl
    rw [hhier] at hq ⊢
    rw [takeWhile_inFirstPiece_append hq, startsLikeScheme, decide_eq_true_eq]
    exact (and_iff_right rfl).symm
  | some a =>
    have hslash : (w.hierarchy ++ part ['?'] w.query).takeWhile inFirstPiece = [] := by
      rw [hierarchy, ha]
      rfl
    rw [hslash]
    exact iff_of_false List.not_mem_nil fun h => Option.some_ne_none a h.1

theorem parseMain_hierarchy (h : w.IsRelative)
    (hc : ¬(w.authority = none ∧ startsLikeScheme w.path)) :
    parseMain (w.hierarchy ++ part ['?'] w.query) = .ok (w.withFragment none).reread := by
  have hscheme : splitScheme (w.hierarchy ++ part ['?'] w.query) =
      .ok (none, w.hierarchy ++ part ['?'] w.query) :=
    splitScheme_eq_none_iff.2 ⟨fun hm => hc ((colon_mem_iff h.question).1 hm), rfl⟩
  have hquery : splitOptional '?' (w.hierarchy ++ part ['?'] w.query) =
      (w.hierarchy, w.query) := by
    cases w.query with
    | none => rw [part, List.append_nil, splitOptional_of_notMem h.question]
    | some q => exact splitOptional_append h.question q
  have hbrackets (ha : (splitAuthority w.hierarchy).1 = none) :
      ∀ c ∈ (splitAuthority w.hierarchy).2, c ≠ '[' ∧ c ≠ ']' := by
    cases hwa : w.authority with
    | none =>
      have hrest := splitAuthority_spec w.hierarchy
      rw [ha, hierarchy, hwa] at hrest
      have hpath : (splitAuthority w.path).2 = w.path := hrest
      rw [hierarchy, hwa]
      exact fun c hm => h.brackets hwa c (hpath ▸ hm)
    | some a =>
      rw [splitAuthority_eq_none_iff, hierarchy, hwa] at ha
      exact absurd ⟨a ++ w.path, rfl⟩ ha
  unfold parseMain
  rw [hscheme]
  simp only [bind, Except.bind, hquery]
  split
  · rename_i ha
    have hnone : findIllegal (fun c => c = '[' || c = ']') 0 (splitAuthority w.hierarchy).2 =
        .ok () :=
      findIllegal_eq_ok_iff.2 (by simpa using hbrackets (Option.isNone_iff_eq_none.1 ha))
    rw [hnone]
    simp only [pure, Except.pure, reread, withFragment]
    rw [← h.scheme]
    rfl
  · simp only [pure, Except.pure, reread, withFragment]
    rw [← h.scheme]
    rfl

/-- **What the text of a reference without scheme is read as.** -/
theorem parse_toChars (h : w.IsRelative)
    (hc : ¬(w.authority = none ∧ startsLikeScheme w.path)) :
    parse w.toChars = .ok w.reread := by
  have hmain := parseMain_hierarchy h hc
  have hfront : (w.withFragment none).toChars = w.hierarchy ++ part ['?'] w.query := by
    rw [toChars_of_scheme_eq_none (by exact h.scheme)]
    exact List.append_nil _
  have hsharp : '#' ∉ w.hierarchy ++ part ['?'] w.query := fun hm =>
    (h.clean.chars '#' (hfront ▸ hm)).2 rfl
  have hwritable : IsWritable (w.hierarchy ++ part ['?'] w.query) := by
    rw [isWritable_append_part (by decide) (by decide) (by decide), isWritable_hierarchy h.path]
    exact ⟨⟨h.writableAuthority, h.writablePath⟩, h.writableQuery⟩
  rw [toChars_of_scheme_eq_none h.scheme]
  cases hf : w.fragment with
  | none =>
    rw [part, List.append_nil]
    refine (parse_of_notMem hsharp).2 ⟨hwritable, _, hmain, ?_⟩
    change w.reread = w.reread.withFragment none
    rw [← hf]
    rfl
  | some f =>
    have hfragment := h.writableFragment
    have hclean := h.clean.fragment
    rw [hf, Option.getD_some] at hfragment hclean
    refine (parse_append hsharp).2
      ⟨⟨hwritable, hfragment⟩, fun hm => (hclean _ hm).2 rfl, _, hmain, ?_⟩
    change w.reread = w.reread.withFragment (some f)
    rw [← hf]
    rfl

theorem reread_of_authority (h : w.IsRelative) (ha : w.authority.isSome) : w.reread = w := by
  obtain ⟨a, hsome⟩ := Option.isSome_iff_exists.1 ha
  have hsplit : splitAuthority w.hierarchy = (some a, w.path) := by
    rw [hierarchy, hsome]
    exact splitAuthority_append (h.authority a hsome) (h.path ha)
  obtain ⟨scheme, authority, path, query, fragment⟩ := w
  obtain rfl : authority = some a := hsome
  rw [reread, hsplit]

theorem reread_of_isRelative (h : w.IsRelative) (hp : w.authority = none → ¬['/', '/'] <+: w.path) :
    w.reread = w := by
  cases ha : w.authority with
  | some a => exact reread_of_authority h (by rw [ha]; rfl)
  | none =>
    have hhier : w.hierarchy = w.path := by
      rw [hierarchy, ha]
      rfl
    have hnone : (splitAuthority w.path).1 = none := splitAuthority_eq_none_iff.2 (hp ha)
    have hrest : (splitAuthority w.path).2 = w.path := by
      have hspec := splitAuthority_spec w.path
      rw [hnone] at hspec
      exact hspec
    obtain ⟨scheme, authority, path, query, fragment⟩ := w
    obtain rfl : authority = none := ha
    simp only [reread, hhier, hnone, hrest]

/-- The end of a path without dot segments has none either. -/
theorem isResolved_dropWhile {after : List Char} (h : IsResolved ('/' :: '/' :: after)) :
    IsResolved (after.dropWhile (· ≠ '/')) := by
  have hnames : AreNames (Text.split '/' after) := by
    rw [IsResolved, Text.split, if_pos rfl] at h
    have hall := h.names_of_absolute
    rw [Text.split, if_pos rfl] at hall
    exact hall.tail
  cases hd : after.dropWhile (· ≠ '/') with
  | nil => exact isResolved_removeDotSegments []
  | cons c rest =>
    have hstop := List.head?_dropWhile_not (fun c : Char => decide (c ≠ '/')) after
    rw [hd] at hstop
    obtain rfl : c = '/' := by simpa using hstop
    have hafter : after = after.takeWhile (· ≠ '/') ++ '/' :: rest := by
      rw [← hd, List.takeWhile_append_dropWhile]
    rw [hafter, Text.split_append] at hnames
    refine ⟨0, [] :: Text.split '/' rest, List.cons_ne_nil _ _, ?_, ?_⟩
    · intro n hn
      rcases List.mem_cons.1 hn with rfl | hn
      · rfl
      · exact hnames n (List.mem_append_right _ hn)
    · rw [Text.split, if_pos rfl]
      rfl

/-- A normal form is read as a normal form. -/
theorem normalize_reread (h : w.IsRelative) (hn : w.normalize = w) :
    w.reread.normalize = w.reread := by
  have hpath : removeDotSegments w.path = w.path := by
    rw [normalize_of_scheme_eq_none h.scheme] at hn
    exact congrArg Uri.path hn
  have hreread : removeDotSegments w.reread.path = w.reread.path := by
    by_cases hp : w.authority = none ∧ ['/', '/'] <+: w.path
    · obtain ⟨ha, after, hafter⟩ := hp
      have hres : IsResolved w.path := hpath ▸ isResolved_removeDotSegments w.path
      rw [← hafter] at hres
      have hdrop : w.reread.path = after.dropWhile (· ≠ '/') := by
        rw [reread, hierarchy, ha, ← hafter]
        rfl
      rw [hdrop]
      exact removeDotSegments_of_isResolved (isResolved_dropWhile hres)
    · rw [reread_of_isRelative h fun ha hpre => hp ⟨ha, hpre⟩, hpath]
  rw [normalize_of_scheme_eq_none (by exact h.scheme), hreread]

/-- A reference that is read as one without scheme does not start like a scheme. -/
theorem scheme_of_parse_toChars (h : w.IsRelative) (hp : parse w.toChars = .ok u)
    (hs : u.scheme = none) : ¬(w.authority = none ∧ startsLikeScheme w.path) := by
  intro hc
  have hsharp : '#' ∉ w.hierarchy ++ part ['?'] w.query := by
    intro hm
    refine (h.clean.chars '#' ?_).2 rfl
    rw [toChars_of_scheme_eq_none (by exact h.scheme)]
    exact List.mem_append_left _ hm
  have hfront : (splitOptional '#' w.toChars).1 = w.hierarchy ++ part ['?'] w.query := by
    rw [toChars_of_scheme_eq_none h.scheme]
    cases w.fragment with
    | none => rw [part, List.append_nil, splitOptional_of_notMem hsharp]
    | some f => exact congrArg Prod.fst (splitOptional_append hsharp f)
  obtain ⟨-, -, v, hm, rfl⟩ := parse_eq_ok_iff.1 hp
  obtain ⟨rest, hsplit, -⟩ := parseMain_eq_ok hm
  rw [show v.scheme = none from hs, hfront] at hsplit
  exact (splitScheme_eq_none_iff.1 hsplit).1 ((colon_mem_iff h.question).2 hc)

/-- A `#` alone writes an empty fragment and nothing else. -/
theorem eq_nil_of_toChars_eq_sharp {f : List Char} (hf : u.fragment = some f)
    (h : u.toChars = ['#']) : (u.withFragment none).toChars = [] ∧ f = [] := by
  have hself : u.withFragment (some f) = u := by
    rw [← hf]
    rfl
  rw [← hself, toChars_withFragment_some] at h
  obtain ⟨hfront, hrest⟩ := (List.append_eq_singleton_iff.1 h).resolve_right (by simp)
  exact ⟨hfront, List.tail_eq_of_cons_eq hrest⟩

/-- Normalization neither makes nor loses a scheme. -/
theorem isSome_scheme_normalize (h : u.IsClean) : u.normalize.scheme.isSome = u.scheme.isSome := by
  cases hs : u.scheme with
  | none =>
    rw [normalize_of_scheme_eq_none hs]
    exact congrArg Option.isSome hs
  | some scheme =>
    have hsome : u.scheme.isSome := by rw [hs]; rfl
    cases ho : u.isOpaque with
    | true => rw [normalize_of_isOpaque ho, hs]
    | false =>
      rw [normalize_of_hierarchical ho hsome]
      cases hw : u.toUrl?.bind ofUrl? with
      | none => exact hsome
      | some w =>
        obtain ⟨x, hx, hf, hxw⟩ := (isUrl_of_toUrl? h hs ho hw).2
        have hscheme : w.scheme = some x.scheme := (ofUrl?_spec hx hf hxw).2.1
        rw [Option.getD_some, hscheme]
        rfl

end Uri

namespace Reference

variable {r : Reference} {text : String} {u : Uri}

theorem scheme_ofUri_eq_none_iff (h : u.IsClean) :
    (ofUri u).scheme = none ↔ u.scheme = none := by
  constructor
  · intro hs
    by_contra hne
    have hsome : u.normalize.scheme.isSome := by
      rw [Uri.isSome_scheme_normalize h]
      exact Option.isSome_iff_ne_none.2 hne
    rw [ofUri_of_scheme rfl hsome] at hs
    have hnone : u.normalize.scheme = none := hs
    rw [hnone] at hsome
    cases hsome
  · intro hs
    unfold ofUri
    simp only
    split
    · rfl
    · rw [scheme, Uri.normalize_of_scheme_eq_none hs]
      exact hs

/-- A reference is the normal form of what it was made of, but for an empty fragment. -/
theorem exists_uri_ofUri (h : u.IsClean) : ∃ fragment,
    (ofUri u).uri = u.normalize.withFragment fragment ∧
      fragment.getD [] = u.normalize.fragment.getD [] := by
  unfold ofUri
  simp only
  split
  · rename_i hchars
    refine ⟨none, ?_⟩
    rcases hchars with hnil | hsharp
    · rw [Uri.eq_empty_of_toChars_eq_nil hnil]
      exact ⟨rfl, rfl⟩
    · cases hf : u.normalize.fragment with
      | none =>
        have hplain := h.normalize.chars
        rw [Uri.withFragment_self hf, hsharp] at hplain
        exact absurd rfl (hplain '#' (List.mem_singleton_self _)).2
      | some f =>
        obtain ⟨hfront, rfl⟩ := Uri.eq_nil_of_toChars_eq_sharp hf hsharp
        exact ⟨(Uri.eq_empty_of_toChars_eq_nil hfront).symm, rfl⟩
  · exact ⟨u.normalize.fragment, rfl, rfl⟩

/-- The text that identifies a reference is that of its normal form. -/
theorem canonical_ofUri (h : u.IsClean) : (ofUri u).canonical =
    (u.normalize.withFragment none).toChars ++ '#' :: u.normalize.fragment.getD [] := by
  obtain ⟨fragment, huri, hf⟩ := exists_uri_ofUri h
  rw [canonical, rawFragment, huri, Uri.toChars_withFragment_some]
  change _ ++ '#' :: fragment.getD [] = _
  rw [hf]
  rfl

theorem ofUri_of_normalize_eq_self {w : Uri} (hn : w.normalize = w) (hnil : w.toChars ≠ [])
    (hsharp : w.toChars ≠ ['#']) : ofUri w = ⟨w⟩ := by
  unfold ofUri
  simp only [hn]
  exact if_neg fun h => h.elim hnil hsharp

/-- A reference without scheme that was read is in its normal form, and it is the empty reference
or written as its parts. -/
theorem relative_of_parse (h : parse text = .ok r) (hs : r.scheme = none) :
    r.uri.IsRelative ∧ r.uri.normalize = r.uri ∧ (r = empty ∨ r.uri.toChars ≠ ['#']) := by
  obtain ⟨u, hu, rfl⟩ := exists_uri_of_parse h
  have hus : u.scheme = none := (scheme_ofUri_eq_none_iff (Uri.isClean_of_parse hu)).1 hs
  have hu' := Uri.isRelative_of_parse hu hus
  unfold ofUri
  simp only
  split
  · refine ⟨?_, rfl, .inl rfl⟩
    have hempty : Uri.parse [] = .ok .empty := rfl
    exact Uri.isRelative_of_parse hempty rfl
  · rename_i hchars
    refine ⟨hu'.normalize, ?_, .inr fun he => hchars (.inr he)⟩
    simp only [Uri.normalize_of_scheme_eq_none hus]
    rw [Uri.normalize_of_scheme_eq_none (by exact hus)]
    simp only [Uri.removeDotSegments_idem]

/-- Whether a reference has no authority and its path starts like a scheme. Such a reference cannot
be written: its text has the form of one with a scheme. -/
def StartsLikeScheme (r : Reference) : Prop :=
  r.uri.authority = none ∧ Uri.startsLikeScheme r.uri.path

instance : Decidable r.StartsLikeScheme :=
  inferInstanceAs (Decidable (_ ∧ _))

theorem toList_text (r : Reference) : r.text.toList = r.toChars :=
  String.toList_ofList

theorem parse_text_empty : parse empty.text = .ok empty := by
  cbv

/-- The text of a reference without scheme is read, and as what. -/
theorem parse_text (hr : r.uri.IsRelative) (hn : r.uri.normalize = r.uri)
    (hne : r.uri ≠ .empty) (hsharp : r.uri.toChars ≠ ['#']) (hc : ¬r.StartsLikeScheme) :
    parse r.text = .ok ⟨r.uri.reread⟩ := by
  have hchars : r.text.toList = r.uri.toChars := by
    rw [toList_text, toChars, if_neg hne]
  have hnil : r.uri.toChars ≠ [] := fun h => hne (Uri.eq_empty_of_toChars_eq_nil h)
  have hread := Uri.parse_toChars hr hc
  have hreread := Uri.toChars_reread r.uri
  rw [parse, hchars, hread]
  change Except.ok (ofUri r.uri.reread) = _
  rw [ofUri_of_normalize_eq_self (Uri.normalize_reread hr hn) (hreread ▸ hnil) (hreread ▸ hsharp)]

/-- A path that climbs, a query with a colon and a fragment. -/
def climbing : Reference :=
  ⟨⟨none, none, "../b".toList, some "q:1".toList, some "/x".toList⟩⟩

/-- A path whose first segment has a colon. -/
def coloned : Reference :=
  ⟨⟨none, none, "1:b".toList, none, none⟩⟩

end Reference

end JsonSchema
