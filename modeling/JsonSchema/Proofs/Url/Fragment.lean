import JsonSchema.Proofs.Url.Reading
import Mathlib

/-!
# The fragment of a URL is what follows the first `#` of its text

Texts are read from left to right, with a base or without one, and whatever stands in front of the
first `#` is escaped where it could be taken for another. So what follows it becomes the fragment,
and the URL is written with no `#` in front of its own.

* `IsPlain`: a URL that is written without `#` in front of its fragment.
* `Reads`: a URL whose fragment is what follows the first `#` of a text.
* `Reads.of_parseWith`: every URL that is read from a text without blanks is one of these.
-/

namespace JsonSchema.Url

variable {kind : SchemeKind} {base : Option Url} {u b x : Url}
  {scheme text before host : List Char} {kept : List (List Char)}

/-! ## What follows the first `#` -/

/-- What follows the first `#` of a text. -/
def afterSharp? (text : List Char) : Option (List Char) :=
  (Uri.splitOptional '#' text).2

theorem exists_eq_append_afterSharp? (text : List Char) :
    ∃ before, '#' ∉ before ∧ text = before ++ (afterSharp? text).elim [] ('#' :: ·) := by
  obtain ⟨hsplit, hsharp⟩ := Uri.splitOptional_spec '#' text
  refine ⟨(Uri.splitOptional '#' text).1, hsharp, hsplit.symm.trans ?_⟩
  rw [afterSharp?]
  cases (Uri.splitOptional '#' text).2 <;> rfl

theorem afterSharp?_of_notMem (h : '#' ∉ text) : afterSharp? text = none := by
  rw [afterSharp?, Uri.splitOptional_of_notMem h]

theorem afterSharp?_append_cons (h : '#' ∉ before) (after : List Char) :
    afterSharp? (before ++ '#' :: after) = some after := by
  rw [afterSharp?, Uri.splitOptional_append h]

theorem afterSharp?_append (h : '#' ∉ before) (text : List Char) :
    afterSharp? (before ++ text) = afterSharp? text := by
  by_cases hm : '#' ∈ text
  · obtain ⟨front, after, rfl, hfront⟩ := List.eq_append_cons_of_mem hm
    rw [← List.append_assoc, afterSharp?_append_cons hfront, afterSharp?_append_cons]
    simp [h, hfront]
  · rw [afterSharp?_of_notMem hm, afterSharp?_of_notMem]
    simp [h, hm]

theorem sharp_notMem_takeWhile {p : Char → Bool} (hp : p '#' = false) (text : List Char) :
    '#' ∉ text.takeWhile p := by
  intro hm
  have := List.mem_takeWhile_imp hm
  simp [hp] at this

theorem afterSharp?_dropWhile {p : Char → Bool} (hp : p '#' = false) (text : List Char) :
    afterSharp? (text.dropWhile p) = afterSharp? text := by
  conv_rhs => rw [← List.takeWhile_append_dropWhile (p := p) (l := text)]
  rw [afterSharp?_append (sharp_notMem_takeWhile hp text)]

/-! ## Parts without `#` -/

theorem sharp_notMem_encode_of_escaped {needsEscape : Char → Bool} (h : needsEscape '#' = true)
    (text : List Char) : '#' ∉ Percent.encode needsEscape text := by
  intro hm
  rcases Percent.mem_encode hm with hsign | ⟨-, hstays, -⟩
  · exact absurd hsign (by decide)
  · rw [h] at hstays
    cases hstays

/-- A drive with a colon in place of its bar holds no other new character. -/
theorem sharp_notMem_keepSegment {segment : List Char} (h : '#' ∉ segment) (file : Bool)
    (kept : List (List Char)) : '#' ∉ keepSegment file kept segment := by
  unfold keepSegment
  split
  · simp only [List.mem_append, List.mem_singleton, not_or]
    exact ⟨fun hm => h (List.mem_of_mem_take hm), by decide⟩
  · exact h

theorem sharp_notMem_buildPath (hkept : ∀ p ∈ kept, '#' ∉ p) (text : List Char) :
    '#' ∉ buildPath kind kept text := by
  intro hm
  have hpieces : ∀ p ∈ pathFrom (kind = .file) kept
      ((segments kind.isSpecial text).map (Percent.encode escapedInPath)), '#' ∉ p := by
    refine forall_mem_pathFrom List.not_mem_nil hkept fun p hp _ _ kept => ?_
    obtain ⟨segment, -, rfl⟩ := List.mem_map.1 hp
    exact sharp_notMem_keepSegment (sharp_notMem_encode_of_escaped (by decide) segment) _ kept
  rcases List.mem_cons.1 hm with he | hm
  · cases he
  rcases Text.mem_join hm with he | ⟨p, hp, hm⟩
  · cases he
  rcases mem_trimFilePath hp with rfl | hp
  · cases hm
  · exact hpieces p hp hm

theorem subset_of_mem_parentSegments {path p : List Char} (hp : p ∈ parentSegments kind path) :
    p ⊆ path := by
  have hsplit : p ∈ Text.split '/' (path.drop 1) := by
    have hreverse : p ∈ (Text.split '/' (path.drop 1)).reverse := by
      unfold parentSegments at hp
      simp only at hp
      split at hp
      · rename_i hkept
        rw [hkept]
        split at hp
        · rwa [hkept] at hp
        · exact List.mem_cons_of_mem _ hp
      · cases hp
    exact List.mem_reverse.1 hreverse
  exact fun _ hm => List.mem_of_mem_drop (Text.subset_of_mem_split hsplit hm)

/-- A URL that is written without `#` in front of its fragment. -/
structure IsPlain (u : Url) : Prop where
  scheme : '#' ∉ u.scheme
  authority : ∀ a, u.authority = some a → '#' ∉ a.toChars
  path : '#' ∉ u.path
  query : ∀ q, u.query = some q → '#' ∉ q

namespace IsPlain

theorem sharp_notMem (h : u.IsPlain) : '#' ∉ { u with fragment := none }.toChars := by
  have hfront : '#' ∉ frontChars { u with fragment := none } := by
    unfold frontChars
    cases ha : u.authority with
    | none =>
      simp only
      split <;> decide
    | some a => simpa using h.authority a ha
  have hrest : '#' ∉ restChars u.query none := by
    cases hq : u.query with
    | none => decide
    | some q => simpa [restChars] using h.query q hq
  rw [toChars_eq]
  simp [h.scheme, hfront, h.path, hrest]

theorem afterSharp?_toChars (h : u.IsPlain) : afterSharp? u.toChars = u.fragment := by
  rw [toChars_eq_append]
  cases u.fragment with
  | none =>
    rw [Option.elim_none, List.append_nil]
    exact afterSharp?_of_notMem h.sharp_notMem
  | some f => exact afterSharp?_append_cons h.sharp_notMem f

theorem withPath (h : u.IsPlain) {path : List Char} (hp : '#' ∉ path) :
    { u with path }.IsPlain :=
  ⟨h.scheme, h.authority, hp, h.query⟩

theorem withFragment (h : u.IsPlain) (fragment : Option (List Char)) :
    { u with fragment }.IsPlain :=
  ⟨h.scheme, h.authority, h.path, h.query⟩

theorem withoutQuery (h : u.IsPlain) (fragment : Option (List Char)) :
    { u with query := none, fragment }.IsPlain where
  scheme := h.scheme
  authority := h.authority
  path := h.path
  query _ hq := by cases hq

theorem bare {path : List Char} (hs : '#' ∉ scheme) (hp : '#' ∉ path) :
    IsPlain ⟨scheme, none, path, none, none⟩ where
  scheme := hs
  authority _ ha := by cases ha
  path := hp
  query _ hq := by cases hq

theorem hosted {a : Authority} {path : List Char} (hs : '#' ∉ scheme) (ha : '#' ∉ a.toChars)
    (hp : '#' ∉ path) : IsPlain ⟨scheme, some a, path, none, none⟩ where
  scheme := hs
  authority _ ha' := by rwa [← Option.some.inj ha']
  path := hp
  query _ hq := by cases hq

theorem file {path : List Char} (hh : '#' ∉ host) (hp : '#' ∉ path) :
    IsPlain ⟨fileScheme, some ⟨[], host, none⟩, path, none, none⟩ :=
  hosted (by decide) (by rwa [toChars_host]) hp

end IsPlain

/-! ## Reading -/

/-- A URL whose fragment is what follows the first `#` of a text, and that has no other `#`. -/
structure Reads (text : List Char) (u : Url) : Prop where
  plain : u.IsPlain
  fragment : u.fragment = (afterSharp? text).map (Percent.encode escapedInFragment)

namespace Reads

theorem congr {other : List Char} (h : Reads text u) (ht : afterSharp? other = afterSharp? text) :
    Reads other u :=
  ⟨h.plain, by rw [ht, h.fragment]⟩

theorem append (h : Reads text u) (hb : '#' ∉ before) : Reads (before ++ text) u :=
  h.congr (afterSharp?_append hb text)

theorem of_dropWhile {p : Char → Bool} (hp : p '#' = false) (h : Reads (text.dropWhile p) u) :
    Reads text u :=
  h.congr (afterSharp?_dropWhile hp text).symm

theorem withoutFragment (h : b.IsPlain) : Reads [] { b with fragment := none } where
  plain := h.withFragment none
  fragment := rfl

theorem withFragmentText (h : b.IsPlain) (rest : List Char) :
    Reads ('#' :: rest) (b.withFragmentText rest) where
  plain := h.withFragment _
  fragment := rfl

/-- Query and fragment are read from what follows the path. -/
theorem withRest (h : u.IsPlain) (text : List Char) :
    Reads text (withRest u (text.dropWhile (!endsPath ·))) := by
  refine of_dropWhile (p := (!endsPath ·)) (by decide) ?_
  have hends := List.head?_dropWhile_not (!endsPath ·) text
  generalize text.dropWhile (!endsPath ·) = rest at hends ⊢
  obtain ⟨before, hsharp, hrest⟩ := exists_eq_append_afterSharp? rest
  rcases before with _ | ⟨c, query⟩
  · cases hafter : afterSharp? rest with
    | none =>
      obtain rfl : rest = [] := by rw [hrest, hafter]; rfl
      exact ⟨h.withoutQuery _, rfl⟩
    | some after =>
      obtain rfl : rest = '#' :: after := by rw [hrest, hafter]; rfl
      rw [withRest_sharp]
      exact ⟨h.withoutQuery _, rfl⟩
  · have hquery : '#' ∉ query := fun hm => hsharp (List.mem_cons_of_mem _ hm)
    have hc : c ≠ '#' := fun he => hsharp (he ▸ List.mem_cons_self)
    obtain rfl : c = '?' := by
      rw [hrest] at hends
      simpa [endsPath, hc] using hends
    have hread := withRest_query u hquery (afterSharp? rest)
    rw [← hrest] at hread
    rw [hread]
    refine ⟨⟨h.scheme, h.authority, h.path, fun q hq => ?_⟩, rfl⟩
    obtain rfl := Option.some.inj hq
    refine sharp_notMem_encode_of_escaped ?_ query
    cases (SchemeKind.of u.scheme).isSpecial <;> decide

theorem relativePath (h : b.IsPlain) (hkept : ∀ p ∈ kept, '#' ∉ p) (text : List Char) :
    Reads text (relativePath b kept text) :=
  withRest (h.withPath (sharp_notMem_buildPath hkept _)) text

/-- A path takes the place of the last segment of the one of the base. -/
theorem relativePath_parentSegments (h : b.IsPlain) (kind : SchemeKind) (text : List Char) :
    Reads text (Url.relativePath b (parentSegments kind b.path) text) :=
  relativePath h (fun _ hp hm => h.path (subset_of_mem_parentSegments hp hm)) text

theorem withoutAuthority (hs : '#' ∉ scheme) (text : List Char) :
    Reads text (withoutAuthority scheme text) := by
  refine withRest (.bare hs ?_) text
  have hwritten := sharp_notMem_takeWhile (p := (!endsPath ·)) (by decide) text
  split
  · exact sharp_notMem_buildPath (List.forall_mem_nil _) _
  · intro hm
    rcases Percent.mem_encode hm with hsign | ⟨hm, -⟩
    · exact absurd hsign (by decide)
    · exact hwritten hm

theorem of_afterSlashes (hs : '#' ∉ scheme) (h : afterSlashes scheme text = .ok x) :
    Reads text x := by
  obtain ⟨a, ha, h⟩ := Uri.bind_eq_ok_iff.1 h
  rw [← Except.ok.inj h]
  refine of_dropWhile ?_ (withRest (.hosted hs ?_ ?_) _)
  · simp [endsPath]
  · exact fun hm => absurd ((isNormal_of_authorityOf ha).chars '#' hm).2.2 (by decide)
  · simp only
    split
    · exact sharp_notMem_buildPath (List.forall_mem_nil _) _
    · exact List.not_mem_nil

theorem fileAt (hhost : '#' ∉ host) (tail : List Char) : Reads tail (fileAt host tail) := by
  refine withRest (IsPlain.file ?_ (sharp_notMem_buildPath (List.forall_mem_nil _) _)) tail
  split
  · exact List.not_mem_nil
  · exact hhost

theorem of_fileWithHost (h : fileWithHost text = .ok x) : Reads text x := by
  rw [fileWithHost_eq rfl] at h
  obtain ⟨host, hread, rfl⟩ := Uri.map_eq_ok_iff.1 h
  have hhost : '#' ∉ host := by
    split at hread
    · rw [← Except.ok.inj hread]
      exact List.not_mem_nil
    · exact fun hm => absurd ((isHost_domainHost hread).chars '#' hm).2.2.1 (by decide)
  refine (fileAt hhost _).congr ?_
  split
  · rfl
  · exact (afterSharp?_dropWhile (by decide) text).symm

/-- What stands in front of the query holds no `#` wherever the reading ends. -/
theorem of_readFrom (hb : ∀ b ∈ base, b.IsPlain) (h : ReadFrom base text x) : Reads text x := by
  have hscheme {scheme : List Char} (hs : ∀ c ∈ scheme, Uri.isSchemeChar c = true) :
      '#' ∉ scheme := fun hm => absurd (hs '#' hm) (by decide)
  have hfresh : freshFile.IsPlain := .file List.not_mem_nil List.not_mem_nil
  induction h with
  | skip hbefore _ ih => exact ih.append fun hm => absurd (hbefore '#' hm) (by decide)
  | authority hs h => exact of_afterSlashes (hscheme hs) h
  | authorityOver hbase h => exact of_afterSlashes (hb _ hbase).scheme h
  | bare hs text => exact withoutAuthority (hscheme hs) text
  | fileHost h => exact of_fileWithHost h
  | file text => exact relativePath hfresh (List.forall_mem_nil _) text
  | fileOnDrive hbase text =>
    refine relativePath hfresh (List.forall_mem_singleton.2 fun hm => ?_) text
    exact (hb _ hbase).path (List.mem_of_mem_drop ((List.takeWhile_sublist _).subset hm))
  | @fileOnHost b hbase text =>
    have hshared : { freshFile with authority := b.authority }.IsPlain :=
      ⟨hfresh.scheme, (hb b hbase).authority, hfresh.path, hfresh.query⟩
    exact relativePath hshared (List.forall_mem_nil _) text
  | sibling hbase kind text => exact relativePath_parentSegments (hb _ hbase) kind text
  | rooted hbase text =>
    exact withRest ((hb _ hbase).withPath (sharp_notMem_buildPath (List.forall_mem_nil _) _)) text
  | query hbase rest => exact withRest (hb _ hbase) ('?' :: rest)
  | fragment hbase rest => exact withFragmentText (hb _ hbase) rest
  | whole hbase => exact withoutFragment (hb _ hbase)

theorem of_parseWith (hb : ∀ b, base = some b → b.IsPlain) (hc : ∀ c ∈ text, 0x20 < c.toNat)
    (h : parseWith base text = .ok x) : Reads text x :=
  of_readFrom hb (readFrom_of_parseWith hc h)

end Reads

end JsonSchema.Url
