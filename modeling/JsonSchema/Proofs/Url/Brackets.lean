import JsonSchema.Proofs.Grammar
import JsonSchema.Proofs.Url.Fragment
import Mathlib

/-!
# Brackets in URLs

A bracket in the authority or in the path of a URL was in the authority or in the path of the text
that it was read from, or in those of its base: escapes write none, and decoded host names with
brackets are refused.

* `IsOpenText`: a text without brackets in front of its query and fragment.
* `IsOpen`: a URL without brackets in scheme, authority and path.
* `IsOpen.of_parseWith`: what is read from such a text, with such a base or without one.
-/

namespace JsonSchema

namespace Uri.IsUnbracketed

variable {text other : List Char}

theorem nil : IsUnbracketed [] :=
  List.forall_mem_nil _

theorem subset (h : IsUnbracketed text) (hs : other ⊆ text) : IsUnbracketed other :=
  fun c hc => h c (hs hc)

theorem append_iff : IsUnbracketed (text ++ other) ↔ IsUnbracketed text ∧ IsUnbracketed other :=
  List.forall_mem_append

theorem cons_iff {c : Char} :
    IsUnbracketed (c :: text) ↔ (c ≠ '[' ∧ c ≠ ']') ∧ IsUnbracketed text :=
  List.forall_mem_cons

theorem escapeSigns : IsUnbracketed Percent.escapeSigns :=
  List.all_iff_forall_prop.1 (by decide)

theorem encode (h : IsUnbracketed text) (needsEscape : Char → Bool) :
    IsUnbracketed (Percent.encode needsEscape text) := by
  intro c hc
  rcases Percent.mem_encode hc with hsign | ⟨hm, -⟩
  · exact escapeSigns c hsign
  · exact h c hm

end Uri.IsUnbracketed

namespace Url

open Uri (IsUnbracketed)

variable {kind : SchemeKind} {base : Option Url} {u b x : Url} {a : Authority}
  {scheme text host path : List Char} {kept : List (List Char)} {more : Bool}

/-! ## Paths -/

theorem unbracketed_buildPath (hkept : ∀ p ∈ kept, IsUnbracketed p) (ht : IsUnbracketed text) :
    IsUnbracketed (buildPath kind kept text) := by
  have hpieces : ∀ p ∈ pathFrom (kind = .file) kept
      ((segments kind.isSpecial text).map (Percent.encode escapedInPath)), IsUnbracketed p := by
    refine forall_mem_pathFrom .nil hkept fun p hp _ _ kept => ?_
    obtain ⟨segment, hsegment, rfl⟩ := List.mem_map.1 hp
    have hencoded : IsUnbracketed (Percent.encode escapedInPath segment) :=
      .encode (fun c hc => ht c (mem_segments hsegment hc).1) _
    unfold keepSegment
    split
    · exact IsUnbracketed.append_iff.2
        ⟨hencoded.subset (List.take_subset _ _), List.forall_mem_singleton.2 (by decide)⟩
    · exact hencoded
  refine IsUnbracketed.cons_iff.2 ⟨by decide, fun c hc => ?_⟩
  rcases Text.mem_join hc with rfl | ⟨p, hp, hm⟩
  · decide
  rcases mem_trimFilePath hp with rfl | hp
  · cases hm
  · exact hpieces p hp c hm

/-! ## Authorities -/

theorem unbracketed_credentialsText (text : List Char) :
    IsUnbracketed (credentialsText text) := by
  have hencoded (text : List Char) : IsUnbracketed (Percent.encode escapedInCredentials text) := by
    intro c hc
    have hstays := (stays_of_mem_encode_credentials hc).1.1
    constructor <;> rintro rfl <;> cases hstays
  rw [credentialsText_eq]
  split
  · exact .nil
  · refine IsUnbracketed.append_iff.2 ⟨IsUnbracketed.append_iff.2 ⟨hencoded _, ?_⟩,
      List.forall_mem_singleton.2 (by decide)⟩
    split
    · exact .nil
    · exact IsUnbracketed.cons_iff.2 ⟨by decide, hencoded _⟩

theorem splitCredentials_subset (text : List Char) : (splitCredentials text).2 ⊆ text := by
  unfold splitCredentials
  rw [List.span_eq_takeWhile_dropWhile]
  split
  · exact List.Subset.refl _
  · rename_i after c before hspan
    obtain ⟨rfl, -⟩ := Prod.mk.inj hspan
    intro c hc
    exact List.mem_reverse.1 ((List.takeWhile_sublist _).subset (List.mem_reverse.1 hc))

theorem splitPort_subset (bracketed : Bool) (text : List Char) :
    (splitPort bracketed text).1 ⊆ text := by
  induction text generalizing bracketed with
  | nil => exact List.Subset.refl _
  | cons c rest ih =>
    rw [splitPort]
    split
    · exact List.nil_subset _
    · exact List.cons_subset_cons c (ih _)

theorem unbracketed_hostOf {special : Bool} (ht : IsUnbracketed text)
    (h : hostOf special text = .ok host) : IsUnbracketed host := by
  have hhead : text.head? ≠ some '[' := fun he => (ht '[' (List.mem_of_mem_head? he)).1 rfl
  have hdomain {c : Char} (hc : Idna.isForbidden c = false) : c ≠ '[' ∧ c ≠ ']' := by
    constructor <;> rintro rfl <;> cases hc
  unfold hostOf at h
  split at h
  · unfold domainHost at h
    rw [if_neg hhead] at h
    split at h
    · cases h
    · cases h
    · rename_i domain _ hd
      split at h
      · split at h
        · cases h
          exact fun c hc => hdomain (isForbidden_of_mem_ipv4Text hc).2
        · cases h
      · cases h
        exact fun c hc => hdomain ((Idna.isAsciiText_of_toAscii? hd).2 c hc)
  · unfold plainHost at h
    rw [if_neg hhead] at h
    split at h
    · cases h
    · cases h
      exact ht.encode _

theorem unbracketed_authorityOf (ht : IsUnbracketed text)
    (h : authorityOf scheme text more = .ok a) : IsUnbracketed a.toChars := by
  have haddress := ht.subset (splitCredentials_subset text)
  obtain ⟨⟨credentials, address⟩, hc⟩ : ∃ p, splitCredentials text = p := ⟨_, rfl⟩
  obtain ⟨⟨name, port⟩, hp⟩ : ∃ p, splitPort false address = p := ⟨_, rfl⟩
  have hname := haddress.subset (splitPort_subset false _)
  rw [hc] at hname
  rw [hp] at hname
  by_cases hne : name = []
  · subst hne
    rw [authorityOf_of_eq_nil hc hp] at h
    split at h
    · cases h
    · cases h
      simpa [Authority.toChars] using unbracketed_credentialsText _
  · rw [authorityOf_of_ne_nil hc hp hne] at h
    obtain ⟨host, hhost, h⟩ := Uri.bind_eq_ok_iff.1 h
    obtain ⟨port, -, h⟩ := Uri.bind_eq_ok_iff.1 h
    cases h
    refine IsUnbracketed.append_iff.2 ⟨IsUnbracketed.append_iff.2
      ⟨unbracketed_credentialsText _, unbracketed_hostOf hname hhost⟩, ?_⟩
    cases port with
    | none => exact .nil
    | some n =>
      refine IsUnbracketed.cons_iff.2 ⟨by decide, fun c hc => ?_⟩
      have hdigit := isAsciiDigit_of_mem_toDigits hc
      constructor <;> rintro rfl <;> cases hdigit

/-! ## Texts -/

/-- A text without brackets in front of its query and fragment. -/
def IsOpenText (text : List Char) : Prop :=
  IsUnbracketed (text.takeWhile (!endsPath ·))

namespace IsOpenText

theorem append_iff {before rest : List Char} (hb : ∀ c ∈ before, endsPath c = false) :
    IsOpenText (before ++ rest) ↔ IsUnbracketed before ∧ IsOpenText rest := by
  rw [IsOpenText, List.takeWhile_append_of_pos (by simpa using hb)]
  exact IsUnbracketed.append_iff

/-- Cutting off the start of a text does not move its query and fragment. -/
theorem of_append (before : List Char) {rest : List Char} (h : IsOpenText (before ++ rest))
    (hb : ∀ c ∈ before, endsPath c = false) : IsOpenText rest :=
  ((append_iff hb).1 h).2

/-- A query or fragment is not looked at. -/
theorem of_unbracketed {before rest : List Char} (h : IsUnbracketed before)
    (hr : ∀ c ∈ rest.head?, endsPath c = true) : IsOpenText (before ++ rest) := by
  have hstop : rest.takeWhile (!endsPath ·) = [] := by
    cases rest with
    | nil => rfl
    | cons c more => simp [hr c rfl]
  refine h.subset fun c hc => ?_
  rw [List.takeWhile_append, hstop, List.append_nil] at hc
  split at hc
  · exact hc
  · exact (List.takeWhile_sublist _).subset hc

theorem dropWhile (h : IsOpenText text) {p : Char → Bool}
    (hp : ∀ c, p c = true → endsPath c = false) : IsOpenText (text.dropWhile p) := by
  refine of_append (text.takeWhile p) ?_ fun c hc => hp c (List.mem_takeWhile_imp hc)
  rwa [List.takeWhile_append_dropWhile]

theorem takeWhile (h : IsOpenText text) {p : Char → Bool}
    (hp : ∀ c, p c = true → endsPath c = false) : IsUnbracketed (text.takeWhile p) := by
  refine h.subset fun c hc => ?_
  have hsplit := List.takeWhile_append_dropWhile (p := p) (l := text)
  rw [← hsplit, List.takeWhile_append_of_pos fun d hd => by
    simpa using hp d (List.mem_takeWhile_imp hd)]
  exact List.mem_append_left _ hc

theorem tail {c : Char} {rest : List Char} (h : IsOpenText (c :: rest))
    (hc : endsPath c = false) : IsOpenText rest :=
  of_append [c] h (List.forall_mem_singleton.2 hc)

end IsOpenText

/-! ## URLs -/

/-- A URL without brackets in scheme, authority and path. -/
structure IsOpen (u : Url) : Prop where
  scheme : IsUnbracketed u.scheme
  authority : ∀ a, u.authority = some a → IsUnbracketed a.toChars
  path : IsUnbracketed u.path

namespace IsOpen

theorem withPath (h : u.IsOpen) (hp : IsUnbracketed path) : { u with path }.IsOpen :=
  ⟨h.scheme, h.authority, hp⟩

theorem withRest (h : u.IsOpen) (rest : List Char) : (withRest u rest).IsOpen :=
  ⟨h.scheme, h.authority, h.path⟩

theorem withFragment (h : u.IsOpen) (fragment : Option (List Char)) :
    { u with fragment }.IsOpen :=
  ⟨h.scheme, h.authority, h.path⟩

theorem bare (hs : IsUnbracketed scheme) (hp : IsUnbracketed path) :
    IsOpen ⟨scheme, none, path, none, none⟩ :=
  ⟨hs, nofun, hp⟩

theorem hosted (hs : IsUnbracketed scheme) (ha : IsUnbracketed a.toChars)
    (hp : IsUnbracketed path) : IsOpen ⟨scheme, some a, path, none, none⟩ where
  scheme := hs
  authority _ ha' := by rwa [← Option.some.inj ha']
  path := hp

theorem fileScheme : IsUnbracketed fileScheme :=
  List.all_iff_forall_prop.1 (by decide)

theorem file (hh : IsUnbracketed host) (hp : IsUnbracketed path) :
    IsOpen ⟨Url.fileScheme, some ⟨[], host, none⟩, path, none, none⟩ :=
  hosted fileScheme (by rwa [toChars_host]) hp

/-! ## Reading -/

theorem relativePath (h : b.IsOpen) (hkept : ∀ p ∈ kept, IsUnbracketed p) (ht : IsOpenText text) :
    (relativePath b kept text).IsOpen :=
  (h.withPath (unbracketed_buildPath hkept
    (ht.subset fun _ => mem_of_mem_dropSlash))).withRest _

theorem relativePath_parentSegments (h : b.IsOpen) (kind : SchemeKind) (ht : IsOpenText text) :
    (Url.relativePath b (parentSegments kind b.path) text).IsOpen :=
  relativePath h (fun _ hp => h.path.subset (subset_of_mem_parentSegments hp)) ht

theorem withoutAuthority (hs : IsUnbracketed scheme) (ht : IsOpenText text) :
    (withoutAuthority scheme text).IsOpen := by
  refine (bare hs ?_).withRest _
  split
  · rename_i rest hwritten
    have hrest : IsUnbracketed ('/' :: rest) := hwritten ▸ ht
    exact unbracketed_buildPath (List.forall_mem_nil _) (IsUnbracketed.cons_iff.1 hrest).2
  · exact IsUnbracketed.encode ht _

theorem of_afterSlashes (hs : IsUnbracketed scheme) (ht : IsOpenText text)
    (h : afterSlashes scheme text = .ok x) : x.IsOpen := by
  have hends {special : Bool} (c : Char)
      (hc : (!(isSlash special c || endsPath c)) = true) : endsPath c = false := by
    simpa using (Bool.or_eq_false_iff.1 (Bool.not_eq_true' _ ▸ hc)).2
  obtain ⟨a, ha, h⟩ := Uri.bind_eq_ok_iff.1 h
  rw [← Except.ok.inj h]
  refine (hosted hs (unbracketed_authorityOf (ht.takeWhile hends) ha) ?_).withRest _
  simp only
  split
  · exact unbracketed_buildPath (List.forall_mem_nil _)
      (IsUnbracketed.subset (ht.dropWhile hends) fun _ => mem_of_mem_dropSlash)
  · exact .nil

/-! ### Files -/

theorem fileAt (hhost : IsUnbracketed host) (ht : IsOpenText text) : (fileAt host text).IsOpen := by
  refine (file ?_ (unbracketed_buildPath (List.forall_mem_nil _)
    (ht.subset fun _ => mem_of_mem_dropSlash))).withRest _
  split
  · exact .nil
  · exact hhost

theorem of_fileWithHost (ht : IsOpenText text) (h : fileWithHost text = .ok x) : x.IsOpen := by
  have hends (c : Char) (hc : (!endsHost c) = true) : endsPath c = false := by
    simpa using (Bool.or_eq_false_iff.1 (Bool.not_eq_true' _ ▸ hc)).2
  rw [fileWithHost_eq rfl] at h
  obtain ⟨host, hread, rfl⟩ := Uri.map_eq_ok_iff.1 h
  have hhost : IsUnbracketed host := by
    split at hread
    · rw [← Except.ok.inj hread]
      exact .nil
    · have hread : hostOf true (text.takeWhile (!endsHost ·)) = .ok host := hread
      exact unbracketed_hostOf (ht.takeWhile hends) hread
  refine fileAt hhost ?_
  split
  · exact ht
  · exact ht.dropWhile hends

/-- Wherever the reading ends, its text is open, too. -/
theorem of_readFrom (hb : ∀ b ∈ base, b.IsOpen) (ht : IsOpenText text)
    (h : ReadFrom base text x) : x.IsOpen := by
  have hscheme {scheme : List Char} (hs : ∀ c ∈ scheme, Uri.isSchemeChar c = true) :
      IsUnbracketed scheme := by
    intro c hc
    constructor <;> rintro rfl <;> exact absurd (hs _ hc) (by decide)
  have hfresh : freshFile.IsOpen := file .nil .nil
  induction h with
  | skip hbefore _ ih => exact ih (ht.of_append _ hbefore)
  | authority hs h => exact of_afterSlashes (hscheme hs) ht h
  | authorityOver hbase h => exact of_afterSlashes (hb _ hbase).scheme ht h
  | bare hs text => exact withoutAuthority (hscheme hs) ht
  | fileHost h => exact of_fileWithHost ht h
  | file text => exact relativePath hfresh (List.forall_mem_nil _) ht
  | fileOnDrive hbase text =>
    refine relativePath hfresh (List.forall_mem_singleton.2 ((hb _ hbase).path.subset ?_)) ht
    exact fun c hc => List.mem_of_mem_drop ((List.takeWhile_sublist _).subset hc)
  | @fileOnHost b hbase text =>
    have hshared : { freshFile with authority := b.authority }.IsOpen :=
      ⟨hfresh.scheme, (hb b hbase).authority, hfresh.path⟩
    exact relativePath hshared (List.forall_mem_nil _) ht
  | sibling hbase kind text => exact relativePath_parentSegments (hb _ hbase) kind ht
  | rooted hbase text =>
    exact ((hb _ hbase).withPath (unbracketed_buildPath (List.forall_mem_nil _) ht)).withRest _
  | query hbase rest => exact (hb _ hbase).withRest _
  | fragment hbase rest => exact (hb _ hbase).withFragment _
  | whole hbase => exact (hb _ hbase).withFragment _

/-- What is written is open, too. -/
theorem isOpenText_toChars (h : x.IsOpen) : IsOpenText x.toChars := by
  have hfront : IsUnbracketed (frontChars x) := by
    unfold frontChars
    split
    · rename_i a ha
      exact IsUnbracketed.cons_iff.2 ⟨by decide, IsUnbracketed.cons_iff.2 ⟨by decide,
        h.authority a ha⟩⟩
    · split
      · exact List.all_iff_forall_prop.1 (by decide)
      · exact .nil
  have hchars : x.toChars =
      (x.scheme ++ ':' :: (frontChars x ++ x.path)) ++ restChars x.query x.fragment := by
    rw [toChars_eq]
    simp
  rw [hchars]
  refine IsOpenText.of_unbracketed ?_ (endsPath_head?_restChars _ _)
  exact IsUnbracketed.append_iff.2 ⟨h.scheme, IsUnbracketed.cons_iff.2 ⟨by decide,
    IsUnbracketed.append_iff.2 ⟨hfront, h.path⟩⟩⟩

/-- **Reading brings no brackets into a URL**: those of its scheme, authority and path were in the
text in front of the query, or in the base. -/
theorem of_parseWith (hb : ∀ b, base = some b → b.IsOpen) (hc : ∀ c ∈ text, 0x20 < c.toNat)
    (ht : IsOpenText text) (h : parseWith base text = .ok x) : x.IsOpen :=
  of_readFrom hb ht (readFrom_of_parseWith hc h)

end IsOpen

end Url

end JsonSchema
