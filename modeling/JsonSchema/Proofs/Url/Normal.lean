import JsonSchema.Proofs.Url.Authority
import JsonSchema.Proofs.Url.Path
import Mathlib

/-!
# URLs that are read are in their final form

* `IsNormal`: the final form, part by part.
* `withRest_restChars`: query and fragment in their final form are read from their own text.
* `isReading_of_parse`: every URL that is read from a hierarchical text is in its final form.
-/

namespace JsonSchema.Url

variable {special : Bool} {kind : SchemeKind} {u x : Url} {scheme text rest fragment : List Char}

/-! ## Query and fragment -/

/-- Query and fragment as they are written. -/
def restChars (query fragment : Option (List Char)) : List Char :=
  query.elim [] ('?' :: ·) ++ fragment.elim [] ('#' :: ·)

/-- A query and a fragment in their final form. -/
structure IsRest (special : Bool) (query fragment : Option (List Char)) : Prop where
  query : ∀ q, query = some q → ∀ c ∈ q, Percent.Stays (escapedInQuery special) c
  fragment : ∀ f, fragment = some f → ∀ c ∈ f, Percent.Stays escapedInFragment c

theorem stays_encode_query {c : Char} (h : c ∈ Percent.encode (escapedInQuery special) text) :
    Percent.Stays (escapedInQuery special) c := by
  rcases Percent.mem_encode h with hsign | ⟨-, hstays⟩
  · have hall : ∀ special, ∀ c ∈ Percent.escapeSigns, Percent.Stays (escapedInQuery special) c := by
      unfold Percent.Stays
      intro special
      cases special <;> exact List.all_iff_forall_prop.1 (by decide)
    exact hall special c hsign
  · exact hstays

theorem stays_encode_fragment {c : Char} (h : c ∈ Percent.encode escapedInFragment text) :
    Percent.Stays escapedInFragment c := by
  rcases Percent.mem_encode h with hsign | ⟨-, hstays⟩
  · have hall : ∀ c ∈ Percent.escapeSigns, Percent.Stays escapedInFragment c := by
      unfold Percent.Stays
      exact List.all_iff_forall_prop.1 (by decide)
    exact hall c hsign
  · exact hstays

/-- Reading query and fragment changes nothing else. -/
theorem withRest_spec (u : Url) (rest : List Char) :
    ∃ query fragment, withRest u rest = { u with query, fragment } ∧
      IsRest (SchemeKind.of u.scheme).isSpecial query fragment := by
  refine ⟨(withRest u rest).query, (withRest u rest).fragment, ?_, fun q hq c hc => ?_,
    fun f hf c hc => ?_⟩
  · unfold withRest
    rfl
  · obtain ⟨q', -, rfl⟩ := Option.map_eq_some_iff.1 hq
    exact stays_encode_query hc
  · obtain ⟨f', -, rfl⟩ := Option.map_eq_some_iff.1 hf
    exact stays_encode_fragment hc

theorem withRest_sharp (u : Url) (fragment : List Char) :
    withRest u ('#' :: fragment) =
      { u with query := none, fragment := some (Percent.encode escapedInFragment fragment) } :=
  rfl

/-- A query ends at the first `#`. -/
theorem withRest_query (u : Url) {query : List Char} (h : '#' ∉ query)
    (fragment : Option (List Char)) :
    withRest u ('?' :: query ++ fragment.elim [] ('#' :: ·)) =
      { u with
        query := some (Percent.encode (escapedInQuery (SchemeKind.of u.scheme).isSpecial) query)
        fragment := fragment.map (Percent.encode escapedInFragment) } := by
  have hall : ∀ c ∈ query, decide (c ≠ '#') = true := fun c hc =>
    decide_eq_true fun he => h (he ▸ hc)
  have hstop : ∀ c ∈ (fragment.elim [] ('#' :: ·)).head?, decide (c ≠ '#') = false := by
    cases fragment <;> simp
  rw [List.cons_append, withRest]
  simp only [Text.takeWhile_append hall hstop, Text.dropWhile_append hall hstop]
  cases fragment <;> rfl

/-- Query and fragment in their final form are read from their own text. -/
theorem withRest_restChars {query fragment : Option (List Char)}
    (h : IsRest (SchemeKind.of u.scheme).isSpecial query fragment) :
    withRest u (restChars query fragment) = { u with query, fragment } := by
  have hfragment : fragment.map (Percent.encode escapedInFragment) = fragment := by
    cases fragment with
    | none => rfl
    | some f => exact congrArg some (Percent.encode_of_stays (h.fragment f rfl))
  cases query with
  | none =>
    cases fragment with
    | none => rfl
    | some f =>
      have hwritten := withRest_sharp u f
      rwa [Option.some.inj hfragment] at hwritten
  | some q =>
    have hsharp : '#' ∉ q := fun hm => by
      have := (h.query q rfl '#' hm).1
      cases hs : (SchemeKind.of u.scheme).isSpecial <;> rw [hs] at this <;> cases this
    have hwritten := withRest_query u hsharp fragment
    rwa [Percent.encode_of_stays (h.query q rfl), hfragment] at hwritten

/-- A fragment at the end of a text is read apart from the rest. -/
theorem withRest_append_fragment (u : Url) (h : '#' ∉ rest) (hhead : ∀ c ∈ rest.head?, c = '?')
    (fragment : List Char) :
    withRest u (rest ++ '#' :: fragment) =
      { withRest u rest with
        fragment := some (Percent.encode escapedInFragment fragment) } := by
  cases rest with
  | nil => rfl
  | cons c query =>
    obtain rfl : c = '?' := hhead c rfl
    have hquery : '#' ∉ query := fun hm => h (List.mem_cons_of_mem _ hm)
    have hbare := withRest_query u hquery none
    rw [show (none : Option (List Char)).elim [] ('#' :: ·) = [] from rfl, List.append_nil] at hbare
    rw [hbare]
    exact withRest_query u hquery (some fragment)

/-! ## URLs in their final form -/

/-- Authority and path of a URL in its final form. -/
inductive IsPlace (u : Url) : Prop
  /-- A local file, or one of a host that is not `localhost`. Drives have no host. -/
  | file (host : List Char) (hk : SchemeKind.of u.scheme = .file)
      (ha : u.authority = some ⟨[], host, none⟩) (hhost : host ≠ [] → IsHost true host)
      (hlocal : host ≠ "localhost".toList)
      (hdrive : isColonDrive ((u.path.drop 1).takeWhile (· ≠ '/')) = true → host = [])
      (hp : IsPath .file u.path)
  | hosted (a : Authority) (hk : SchemeKind.of u.scheme ≠ .file) (ha : u.authority = some a)
      (hn : a.IsNormal u.scheme)
      (hp : IsPath (SchemeKind.of u.scheme) u.path ∨
        SchemeKind.of u.scheme = .plain ∧ u.path = [])
  | bare (hk : SchemeKind.of u.scheme = .plain) (ha : u.authority = none)
      (hp : IsPath .plain u.path)

/-- A URL in its final form. -/
structure IsNormal (u : Url) : Prop where
  scheme : Uri.IsScheme u.scheme
  place : IsPlace u
  rest : IsRest (SchemeKind.of u.scheme).isSpecial u.query u.fragment

/-! ## What is read is in its final form -/

theorem IsPlace.withQueryFragment (h : IsPlace u) (query fragment : Option (List Char)) :
    IsPlace { u with query, fragment } := by
  cases h with
  | file host hk ha hhost hlocal hdrive hp => exact .file host hk ha hhost hlocal hdrive hp
  | hosted a hk ha hn hp => exact .hosted a hk ha hn hp
  | bare hk ha hp => exact .bare hk ha hp

theorem head?_dropWhile_endsPath (h : '#' ∉ text) :
    ∀ c ∈ (text.dropWhile (!endsPath ·)).head?, c = '?' := by
  intro c hc
  have hends := List.head?_dropWhile_not (!endsPath ·) text
  rw [hc] at hends
  have hne : c ≠ '#' := fun he =>
    h (he ▸ (List.dropWhile_sublist _).subset (List.mem_of_mem_head? hc))
  simpa [endsPath, hne] using hends

/-- A URL in its final form; it has no fragment if the text that it was read from holds no `#`. -/
def IsReading (text : List Char) (u : Url) : Prop :=
  u.IsNormal ∧ ('#' ∉ text → u.fragment = none)

theorem IsReading.mono {more : List Char} (h : IsReading text u) (hsub : text ⊆ more) :
    IsReading more u :=
  ⟨h.1, fun hsharp => h.2 fun hm => hsharp (hsub hm)⟩

theorem fragment_withRest (u : Url) (h : '#' ∉ text) :
    (withRest u (text.dropWhile (!endsPath ·))).fragment = none := by
  have hhead := head?_dropWhile_endsPath h
  have hsharp : '#' ∉ text.dropWhile (!endsPath ·) := fun hm =>
    h ((List.dropWhile_sublist _).subset hm)
  cases hd : text.dropWhile (!endsPath ·) with
  | nil => rfl
  | cons c query =>
    rw [hd] at hhead hsharp
    obtain rfl : c = '?' := hhead c rfl
    have hread := withRest_query u (fun hm => hsharp (List.mem_cons_of_mem _ hm)) none
    rw [show (none : Option (List Char)).elim [] ('#' :: ·) = [] from rfl, List.append_nil] at hread
    rw [hread]
    rfl

theorem isReading_withRest (hs : Uri.IsScheme u.scheme) (hp : IsPlace u) (text : List Char) :
    IsReading text (withRest u (text.dropWhile (!endsPath ·))) := by
  refine ⟨?_, fragment_withRest u⟩
  obtain ⟨query, fragment, he, hrest⟩ := withRest_spec u (text.dropWhile (!endsPath ·))
  rw [he]
  exact ⟨hs, hp.withQueryFragment query fragment, hrest⟩

theorem mem_of_mem_dropSlash {c : Char} (h : c ∈ dropSlash special text) : c ∈ text := by
  unfold dropSlash at h
  split at h
  · split at h
    · exact List.mem_cons_of_mem _ h
    · exact h
  · cases h

theorem isPath_buildPath_takeWhile {p : Char → Bool} (h : '|' ∉ text) :
    IsPath kind (buildPath kind [] (dropSlash special (text.takeWhile p))) :=
  isPath_buildPath fun hm => h ((List.takeWhile_sublist p).subset (mem_of_mem_dropSlash hm))

theorem isReading_of_afterSlashes (hs : Uri.IsScheme scheme) (hk : SchemeKind.of scheme ≠ .file)
    (hbar : '|' ∉ text) (h : afterSlashes scheme text = .ok x) : IsReading text x := by
  obtain ⟨a, ha, h⟩ := Uri.bind_eq_ok_iff.1 h
  rw [← Except.ok.inj h]
  refine (isReading_withRest (by exact hs)
    (.hosted a hk rfl (isNormal_of_authorityOf ha) ?_) _).mono
    (List.dropWhile_sublist _).subset
  simp only
  split
  · exact .inl (isPath_buildPath_takeWhile fun hm =>
      hbar ((List.dropWhile_sublist _).subset hm))
  · rename_i hplain
    refine .inr ⟨?_, rfl⟩
    cases hkind : SchemeKind.of scheme with
    | file => exact absurd hkind hk
    | special => simp [hkind, SchemeKind.isSpecial] at hplain
    | plain => rfl

theorem isScheme_file : Uri.IsScheme fileScheme := by
  unfold Uri.IsScheme
  decide

theorem kind_fileScheme : SchemeKind.of fileScheme = .file :=
  rfl

/-- A character that ends the host of a file. -/
def endsHost (c : Char) : Bool :=
  isSlash true c || endsPath c

/-- The URL of a file on a host, given the text after the host. -/
def fileAt (host tail : List Char) : Url :=
  let path := buildPath .file [] (dropSlash true (tail.takeWhile (!endsPath ·)))
  let host :=
    if host = "localhost".toList || isColonDrive ((path.drop 1).takeWhile (· ≠ '/')) then []
    else host
  withRest ⟨fileScheme, some ⟨[], host, none⟩, path, none, none⟩ (tail.dropWhile (!endsPath ·))

theorem fileWithHost_eq {name : List Char} (hname : text.takeWhile (!endsHost ·) = name) :
    fileWithHost text =
      (if name = [] || isDrive name then .ok [] else domainHost name).map fun host =>
        fileAt host (if isDrive name then text else text.dropWhile (!endsHost ·)) := by
  subst hname
  unfold fileWithHost endsHost
  simp only
  generalize List.takeWhile _ text = name
  by_cases hn : (decide (name = []) || isDrive name) = true
  · rw [if_pos hn, if_pos hn]
    rfl
  · rw [if_neg hn, if_neg hn]
    cases domainHost name <;> rfl

/-- A file that was read is in its final form. -/
theorem isReading_fileAt {host tail : List Char} (hbar : '|' ∉ tail)
    (hhost : host ≠ [] → IsHost true host) : IsReading tail (fileAt host tail) := by
  refine isReading_withRest isScheme_file
    (.file _ rfl rfl ?_ ?_ ?_ (isPath_buildPath_takeWhile hbar)) tail
  · split
    · exact fun hne => absurd rfl hne
    · exact hhost
  · split
    · decide
    · rename_i hguard
      simp only [Bool.or_eq_true, not_or, decide_eq_true_eq] at hguard
      exact hguard.1
  · intro hdrive
    rw [if_pos (by rw [hdrive, Bool.or_true])]

theorem isReading_of_fileWithHost (hbar : '|' ∉ text) (h : fileWithHost text = .ok x) :
    IsReading text x := by
  rw [fileWithHost_eq rfl] at h
  obtain ⟨host, hread, rfl⟩ := Uri.map_eq_ok_iff.1 h
  have htail : (if isDrive (text.takeWhile (!endsHost ·)) then text
      else text.dropWhile (!endsHost ·)) ⊆ text := by
    split
    · exact List.Subset.refl _
    · exact (List.dropWhile_sublist _).subset
  refine (isReading_fileAt (fun hm => hbar (htail hm)) fun hne => ?_).mono htail
  · split at hread
    · exact absurd (Except.ok.inj hread).symm hne
    · exact isHost_domainHost hread

theorem fileUrl_cons (rest : List Char) :
    fileUrl none ('/' :: rest) =
      if rest.head?.any (isSlash true) then fileWithHost rest.tail else .ok (fileAt [] rest) := by
  have hat : fileUrl.fileAfterSlash none ⟨fileScheme, some ⟨[], [], none⟩, [], none, none⟩ rest =
      fileAt [] rest := by
    unfold fileUrl.fileAfterSlash fileAt
    simp only [ite_self]
    rfl
  cases rest with
  | nil => exact congrArg Except.ok hat
  | cons d more =>
    unfold fileUrl
    simp only [show isSlash true '/' = true from rfl, if_true, hat]
    rfl

theorem isReading_of_fileUrl (hbar : '|' ∉ rest) (h : fileUrl none ('/' :: rest) = .ok x) :
    IsReading rest x := by
  rw [fileUrl_cons] at h
  split at h
  · exact (isReading_of_fileWithHost (fun hm => hbar (List.mem_of_mem_tail hm)) h).mono
      (List.tail_sublist rest).subset
  · cases h
    exact isReading_fileAt hbar fun hne => absurd rfl hne

theorem isReading_withoutAuthority (hs : Uri.IsScheme scheme) (hk : SchemeKind.of scheme = .plain)
    (hbar : '|' ∉ rest) :
    IsReading ('/' :: rest) (withoutAuthority scheme ('/' :: rest)) := by
  refine isReading_withRest (by exact hs) (.bare hk rfl ?_) _
  exact isPath_buildPath fun hm => hbar ((List.takeWhile_sublist _).subset hm)

/-! ## Whole texts -/

theorem clean_of_blank {text : List Char} (h : ∀ c ∈ text, 0x20 < c.toNat) : clean text = text := by
  have hdrop {text : List Char} (h : ∀ c ∈ text, 0x20 < c.toNat) :
      text.dropWhile (fun c => decide (c.toNat ≤ 0x20)) = text := by
    cases text with
    | nil => rfl
    | cons c rest =>
      rw [List.dropWhile_cons_of_neg]
      simpa using h c List.mem_cons_self
  rw [clean, hdrop h, hdrop fun c hc => h c (List.mem_reverse.1 hc), List.reverse_reverse,
    List.filter_eq_self]
  intro c hc
  have hlt := h c hc
  refine decide_eq_true ⟨?_, ?_, ?_⟩
  all_goals
    rintro rfl
    revert hlt
    decide

theorem splitScheme_append (h : Uri.IsScheme scheme) (rest : List Char) :
    splitScheme (scheme ++ ':' :: rest) = some (scheme, rest) := by
  obtain ⟨hletter, hall⟩ := Uri.isSchemeName_iff.1 h.1
  have hstop : ∀ c ∈ (':' :: rest).head?, Uri.isSchemeChar c = false := by
    simp
    decide
  have htake : (scheme ++ ':' :: rest).takeWhile (fun c =>
      CharClass.isAsciiAlphanumeric c || c = '+' || c = '-' || c = '.') = scheme :=
    Text.takeWhile_append hall hstop
  unfold splitScheme
  simp only [htake, List.drop_left, hletter, if_true, h.2]

/-- Reading a text without blanks that starts with a scheme. -/
theorem parse_append (hs : Uri.IsScheme scheme) (hc : ∀ c ∈ scheme ++ ':' :: rest, 0x20 < c.toNat) :
    parse (scheme ++ ':' :: rest) =
      match SchemeKind.of scheme with
      | .file => fileUrl none rest
      | .special => afterSlashes scheme (rest.drop (rest.takeWhile (isSlash true)).length)
      | .plain =>
        if rest.take 2 = ['/', '/'] then afterSlashes scheme (rest.drop 2)
        else .ok (withoutAuthority scheme rest) := by
  rw [parse, parseWith, clean_of_blank hc, splitScheme_append hs]
  rfl

/-- **A URL that was read from a hierarchical text is in its final form.** -/
theorem isReading_of_parse (hs : Uri.IsScheme scheme)
    (hc : ∀ c ∈ scheme ++ ':' :: '/' :: rest, 0x20 < c.toNat) (hbar : '|' ∉ rest)
    (h : parse (scheme ++ ':' :: '/' :: rest) = .ok x) : IsReading ('/' :: rest) x := by
  rw [parse_append hs hc] at h
  have hdrop (n : Nat) : '|' ∉ ('/' :: rest).drop n := fun hm => by
    rcases List.mem_cons.1 (List.mem_of_mem_drop hm) with he | hm
    · cases he
    · exact hbar hm
  split at h
  · exact (isReading_of_fileUrl hbar h).mono (List.subset_cons_self _ _)
  · rename_i hk
    exact (isReading_of_afterSlashes hs (by rw [hk]; nofun) (hdrop _) h).mono
      (List.drop_subset _ _)
  · rename_i hk
    split at h
    · exact (isReading_of_afterSlashes hs (by rw [hk]; nofun) (hdrop _) h).mono
        (List.drop_subset _ _)
    · cases h
      exact isReading_withoutAuthority hs hk hbar

end JsonSchema.Url
