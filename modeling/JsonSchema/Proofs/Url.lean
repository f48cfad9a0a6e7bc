import JsonSchema.Proofs.Url.Normal
import Mathlib

/-!
# URLs are read from their own texts

* `eq_of_parse_toChars`: a URL in its final form is read from its own text, if that is read at all.
* `parse_toChars_of_bare`: without authority, it is read.
* `parse_append_fragment`: what is read does not depend on a fragment.
-/

namespace JsonSchema.Url

variable {special : Bool} {kind : SchemeKind} {u x : Url} {scheme text rest fragment : List Char}

/-! ## Authority and path -/

theorem endsPath_head?_restChars (query fragment : Option (List Char)) :
    ∀ c ∈ (restChars query fragment).head?, endsPath c = true := by
  cases query <;> cases fragment <;> simp [restChars, endsPath]

theorem endsPath_of_mem_isPath {path : List Char} (h : IsPath kind path) :
    ∀ c ∈ path, endsPath c = false := by
  intro c hc
  obtain ⟨hescape, hascii⟩ := stays_of_mem_isPath h hc
  revert hescape
  refine Uri.of_isAscii hascii ?_
  decide

theorem exists_body_of_isPath {path : List Char} (h : IsPath kind path) :
    ∃ body, path = '/' :: body := by
  obtain ⟨pieces, rfl, -⟩ := h
  exact ⟨_, rfl⟩

/-- What follows an authority is split into path and the rest. -/
theorem span_path_restChars {path : List Char} (hp : ∀ c ∈ path, endsPath c = false)
    (query fragment : Option (List Char)) :
    (path ++ restChars query fragment).takeWhile (!endsPath ·) = path ∧
      (path ++ restChars query fragment).dropWhile (!endsPath ·) = restChars query fragment := by
  have hall : ∀ c ∈ path, (!endsPath c) = true := fun c hc => by simp [hp c hc]
  have hstop : ∀ c ∈ (restChars query fragment).head?, (!endsPath c) = false := fun c hc => by
    simp [endsPath_head?_restChars query fragment c hc]
  exact ⟨Text.takeWhile_append hall hstop, Text.dropWhile_append hall hstop⟩

theorem buildPath_dropSlash {path : List Char} (h : IsPath kind path) (special : Bool) :
    buildPath kind [] (dropSlash special path) = path := by
  obtain ⟨body, rfl⟩ := exists_body_of_isPath h
  have hbuild := buildPath_of_isPath h
  rwa [dropSlash, if_pos (by simp [isSlash])]

theorem afterSlashes_append {a : Authority} {path : List Char} {query fragment : Option (List Char)}
    (hn : a.IsNormal scheme)
    (hp : IsPath (SchemeKind.of scheme) path ∨ SchemeKind.of scheme = .plain ∧ path = [])
    (hr : IsRest (SchemeKind.of scheme).isSpecial query fragment)
    (h : afterSlashes scheme (a.toChars ++ (path ++ restChars query fragment)) = .ok x) :
    x = ⟨scheme, some a, path, query, fragment⟩ := by
  have hpath : ∀ c ∈ path, endsPath c = false := by
    rcases hp with hp | ⟨-, rfl⟩
    · exact endsPath_of_mem_isPath hp
    · exact nofun
  have hall : ∀ c ∈ a.toChars,
      (!(isSlash (SchemeKind.of scheme).isSpecial c || endsPath c)) = true := fun c hc => by
    obtain ⟨-, hslash, hends⟩ := hn.chars c hc
    rw [isSlash_of_true hslash, hends]
    rfl
  have hstop : ∀ c ∈ (path ++ restChars query fragment).head?,
      (!(isSlash (SchemeKind.of scheme).isSpecial c || endsPath c)) = false := by
    intro c hc
    rcases hp with hp | ⟨-, rfl⟩
    · obtain ⟨body, rfl⟩ := exists_body_of_isPath hp
      obtain rfl : '/' = c := by simpa using hc
      simp [isSlash]
    · rw [endsPath_head?_restChars query fragment c hc, Bool.or_true]
      rfl
  obtain ⟨htake, hdrop⟩ := span_path_restChars hpath query fragment
  obtain ⟨a', ha, h⟩ := Uri.bind_eq_ok_iff.1 h
  rw [Text.takeWhile_append hall hstop] at ha
  obtain rfl := authorityOf_toChars hn ha
  rw [← Except.ok.inj h]
  simp only [Text.dropWhile_append hall hstop, htake, hdrop]
  rw [withRest_restChars hr]
  have hbuilt : (if ((SchemeKind.of scheme).isSpecial || decide (path ≠ [])) = true then
      buildPath (SchemeKind.of scheme) [] (dropSlash (SchemeKind.of scheme).isSpecial path)
      else []) = path := by
    rcases hp with hp | ⟨hk, rfl⟩
    · have hne : path ≠ [] := by
        obtain ⟨body, rfl⟩ := exists_body_of_isPath hp
        exact List.cons_ne_nil _ _
      rw [if_pos (by simp [hne]), buildPath_dropSlash hp]
    · rw [hk]
      rfl
  rw [hbuilt]

theorem fileAt_append {host path : List Char} {query fragment : Option (List Char)}
    (hlocal : host ≠ "localhost".toList)
    (hdrive : isColonDrive ((path.drop 1).takeWhile (· ≠ '/')) = true → host = [])
    (hp : IsPath .file path) (hr : IsRest true query fragment) :
    fileAt host (path ++ restChars query fragment) =
      ⟨fileScheme, some ⟨[], host, none⟩, path, query, fragment⟩ := by
  obtain ⟨htake, hdrop⟩ := span_path_restChars (endsPath_of_mem_isPath hp) query fragment
  have hhost : (if (decide (host = "localhost".toList) ||
      isColonDrive ((path.drop 1).takeWhile (· ≠ '/'))) = true then [] else host) = host := by
    split
    · rename_i hguard
      rw [Bool.or_eq_true, decide_eq_true_eq] at hguard
      exact (hdrive (hguard.resolve_left hlocal)).symm
    · rfl
  unfold fileAt
  simp only [htake, hdrop, buildPath_dropSlash hp, hhost]
  exact withRest_restChars (u := ⟨fileScheme, some ⟨[], host, none⟩, path, none, none⟩) hr

theorem fileWithHost_append {host path : List Char} {query fragment : Option (List Char)}
    (hhost : host ≠ [] → IsHost true host) (hlocal : host ≠ "localhost".toList)
    (hdrive : isColonDrive ((path.drop 1).takeWhile (· ≠ '/')) = true → host = [])
    (hp : IsPath .file path) (hr : IsRest true query fragment)
    (h : fileWithHost (host ++ (path ++ restChars query fragment)) = .ok x) :
    x = ⟨fileScheme, some ⟨[], host, none⟩, path, query, fragment⟩ := by
  have hall : ∀ c ∈ host, (!endsHost c) = true := fun c hc => by
    obtain ⟨-, hslash, hends, -⟩ := (hhost (List.ne_nil_of_mem hc)).chars c hc
    rw [endsHost, hslash, hends]
    rfl
  have hstop : ∀ c ∈ (path ++ restChars query fragment).head?, (!endsHost c) = false := by
    intro c hc
    obtain ⟨body, rfl⟩ := exists_body_of_isPath hp
    obtain rfl : '/' = c := by simpa using hc
    rfl
  have hnodrive : isDrive host = false := by
    by_cases hne : host = []
    · rw [hne]
      rfl
    · exact (hhost hne).isDrive
  rw [fileWithHost_eq (Text.takeWhile_append hall hstop), hnodrive, Bool.or_false] at h
  obtain ⟨other, hread, rfl⟩ := Uri.map_eq_ok_iff.1 h
  have hother : other = host := by
    split at hread
    · rename_i hnil
      rw [of_decide_eq_true hnil]
      exact (Except.ok.inj hread).symm
    · rename_i hne
      exact (hhost fun he => hne (decide_eq_true he)).again other hread
  rw [hother, if_neg Bool.false_ne_true, Text.dropWhile_append hall hstop,
    fileAt_append hlocal hdrive hp hr]

/-- A path is read apart from what keeps it from being taken for an authority. -/
theorem withoutAuthority_append {path : List Char} {query fragment : Option (List Char)}
    (front : List Char) (hk : SchemeKind.of scheme = .plain) (hp : IsPath .plain path)
    (hr : IsRest false query fragment)
    (hfront : front = [] ∨ front = ['/', '.']) :
    withoutAuthority scheme (front ++ (path ++ restChars query fragment)) =
      ⟨scheme, none, path, query, fragment⟩ := by
  have hends : ∀ c ∈ front ++ path, endsPath c = false := by
    refine List.forall_mem_append.2 ⟨?_, endsPath_of_mem_isPath hp⟩
    rcases hfront with rfl | rfl <;> exact List.all_iff_forall_prop.1 (by decide)
  obtain ⟨htake, hdrop⟩ := span_path_restChars hends query fragment
  have hbuilt : ∃ body, front ++ path = '/' :: body ∧ buildPath .plain [] body = path := by
    obtain ⟨body, rfl⟩ := exists_body_of_isPath hp
    have hbuild := buildPath_of_isPath hp
    rcases hfront with rfl | rfl
    · exact ⟨body, rfl, hbuild⟩
    · exact ⟨'.' :: '/' :: body, rfl, (buildPath_dot .plain body).trans hbuild⟩
  obtain ⟨body, hbody, hbuild⟩ := hbuilt
  rw [hbody] at htake hdrop
  rw [← List.append_assoc, hbody]
  unfold withoutAuthority
  simp only [htake, hdrop, hbuild]
  exact withRest_restChars (u := ⟨scheme, none, path, none, none⟩)
    (show IsRest (SchemeKind.of scheme).isSpecial query fragment by rw [hk]; exact hr)

/-! ## Texts of URLs -/

/-- The text of a URL between its scheme and its path. -/
def frontChars (u : Url) : List Char :=
  match u.authority with
  | some a => '/' :: '/' :: a.toChars
  | none => if u.path.take 2 = ['/', '/'] then ['/', '.'] else []

theorem toChars_eq (u : Url) :
    u.toChars = u.scheme ++ ':' :: (frontChars u ++ (u.path ++ restChars u.query u.fragment)) := by
  obtain ⟨scheme, authority, path, query, fragment⟩ := u
  cases authority <;> simp [toChars, frontChars, restChars]

theorem toChars_host (host : List Char) : Authority.toChars ⟨[], host, none⟩ = host :=
  List.append_nil host

/-- The text of the authority of a URL holds nothing that ends it. -/
theorem IsPlace.authority_chars (h : IsPlace u) {a : Authority} (ha : u.authority = some a) :
    ∀ c ∈ a.toChars, 0x20 < c.toNat ∧ isSlash true c = false ∧ endsPath c = false := by
  cases h with
  | file host _ ha' hhost =>
    obtain rfl := Option.some.inj (ha.symm.trans ha')
    rw [toChars_host]
    intro c hc
    obtain ⟨hblank, hslash, hends, -⟩ := (hhost (List.ne_nil_of_mem hc)).chars c hc
    exact ⟨hblank, hslash, hends⟩
  | hosted a' _ ha' hn =>
    obtain rfl := Option.some.inj (ha.symm.trans ha')
    exact hn.chars
  | bare _ ha' => rw [ha'] at ha; cases ha

theorem IsPlace.path (h : IsPlace u) : u.path = [] ∨ ∃ kind, IsPath kind u.path := by
  cases h with
  | file _ _ _ _ _ _ hp => exact .inr ⟨_, hp⟩
  | hosted _ _ _ _ hp => exact hp.symm.imp And.right fun hp => ⟨_, hp⟩
  | bare _ _ hp => exact .inr ⟨_, hp⟩

theorem IsPlace.endsPath (h : IsPlace u) : ∀ c ∈ u.path, endsPath c = false := by
  rcases h.path with hnil | ⟨kind, hp⟩
  · rw [hnil]
    exact nofun
  · exact endsPath_of_mem_isPath hp

/-- Neither a blank nor the sign of a fragment. -/
def IsMain (c : Char) : Prop :=
  0x20 < c.toNat ∧ c ≠ '#'

instance : DecidablePred IsMain := fun c => by
  unfold IsMain
  infer_instance

theorem IsPlace.isMain_path (h : IsPlace u) : ∀ c ∈ u.path, IsMain c := by
  rcases h.path with hnil | ⟨kind, hp⟩
  · rw [hnil]
    exact nofun
  · intro c hc
    obtain ⟨hescape, hascii⟩ := stays_of_mem_isPath hp hc
    revert hescape
    refine Uri.of_isAscii hascii ?_
    decide

theorem IsPlace.isMain_frontChars (h : IsPlace u) : ∀ c ∈ frontChars u, IsMain c := by
  unfold frontChars
  cases ha : u.authority with
  | none =>
    simp only
    split <;> exact List.all_iff_forall_prop.1 (by decide)
  | some a =>
    refine List.forall_mem_cons.2 ⟨by decide, List.forall_mem_cons.2 ⟨by decide, fun c hc => ?_⟩⟩
    obtain ⟨hblank, -, hends⟩ := h.authority_chars ha c hc
    exact ⟨hblank, fun he => absurd (he ▸ hends) (by decide)⟩

theorem isMain_of_mem_query {query fragment : Option (List Char)}
    (h : IsRest special query fragment) : ∀ c ∈ restChars query none, IsMain c := by
  rw [restChars, Option.elim_none, List.append_nil]
  cases query with
  | none => exact nofun
  | some q =>
    refine List.forall_mem_cons.2 ⟨by decide, fun c hc => ?_⟩
    obtain ⟨hescape, hascii⟩ := h.query q rfl c hc
    revert hescape
    refine Uri.of_isAscii hascii ?_
    cases special <;> decide

theorem isMain_of_mem_scheme (h : Uri.IsScheme scheme) : ∀ c ∈ scheme, IsMain c :=
  Uri.forall_mem_of_isScheme h (by decide)

theorem toChars_eq_append (u : Url) :
    u.toChars = { u with fragment := none }.toChars ++ u.fragment.elim [] ('#' :: ·) := by
  rw [toChars_eq, toChars_eq]
  simp [restChars, frontChars]

/-- The text of a URL holds no blanks, and no `#` in front of the fragment. -/
theorem IsNormal.isMain (h : u.IsNormal) : ∀ c ∈ { u with fragment := none }.toChars, IsMain c := by
  rw [toChars_eq]
  exact List.forall_mem_append.2 ⟨isMain_of_mem_scheme h.scheme, List.forall_mem_cons.2 ⟨by decide,
    List.forall_mem_append.2 ⟨h.place.isMain_frontChars, List.forall_mem_append.2
      ⟨h.place.isMain_path, isMain_of_mem_query h.rest⟩⟩⟩⟩

theorem IsNormal.chars (h : u.IsNormal) : ∀ c ∈ u.toChars, 0x20 < c.toNat := by
  rw [toChars_eq_append]
  refine List.forall_mem_append.2 ⟨fun c hc => (h.isMain c hc).1, ?_⟩
  cases hf : u.fragment with
  | none => exact nofun
  | some f =>
    refine List.forall_mem_cons.2 ⟨by decide, fun c hc => ?_⟩
    obtain ⟨hescape, hascii⟩ := h.rest.fragment f hf c hc
    revert hescape
    refine Uri.of_isAscii hascii ?_
    decide

/-! ## Whole URLs -/

theorem eq_fileScheme (h : SchemeKind.of scheme = .file) : scheme = fileScheme := by
  unfold SchemeKind.of at h
  split at h
  · assumption
  · split at h <;> cases h

/-- Exactly two slashes stand in front of an authority that has a host. -/
theorem takeWhile_isSlash {a : Authority} (hn : a.IsNormal scheme) (hne : a.host ≠ [])
    (rest : List Char) :
    ('/' :: '/' :: (a.toChars ++ rest)).takeWhile (isSlash true) = ['/', '/'] := by
  have hchars : a.toChars ≠ [] := by
    rw [Authority.toChars_eq]
    simp [hne]
  obtain ⟨c, more, hcons⟩ := List.exists_cons_of_ne_nil hchars
  rw [hcons]
  have hstop : ∀ d ∈ (c :: more ++ rest).head?, isSlash true d = false := by
    intro d hd
    obtain rfl : c = d := by simpa using hd
    exact (hn.chars c (hcons ▸ List.mem_cons_self)).2.1
  have hslashes : ∀ d ∈ ['/', '/'], isSlash true d = true :=
    List.all_iff_forall_prop.1 (by decide)
  exact Text.takeWhile_append hslashes hstop

/-- A path is not taken for an authority. -/
theorem take_frontChars {query fragment : Option (List Char)}
    (ha : u.authority = none) (hp : IsPath kind u.path) :
    (frontChars u ++ (u.path ++ restChars query fragment)).take 2 ≠ ['/', '/'] := by
  obtain ⟨body, hbody⟩ := exists_body_of_isPath hp
  unfold frontChars
  rw [ha]
  simp only
  split
  · simp
  rename_i hslashes
  rw [List.nil_append, hbody]
  rw [hbody] at hslashes
  cases body with
  | nil =>
    intro htake
    have hhead := endsPath_head?_restChars query fragment '/'
    cases hr : restChars query fragment with
    | nil => simp [hr] at htake
    | cons c rest =>
      obtain rfl : c = '/' := by simpa [hr] using htake
      rw [hr] at hhead
      exact absurd (hhead rfl) (by decide)
  | cons c more => simpa using hslashes

/-- A URL without authority is read from its own text. -/
theorem parse_toChars_of_bare (hu : u.IsNormal) (ha : u.authority = none) :
    parse u.toChars = .ok u := by
  have hchars := hu.chars
  rw [toChars_eq] at hchars ⊢
  rw [parse_append hu.scheme hchars]
  cases hu.place with
  | file host _ ha' => rw [ha] at ha'; cases ha'
  | hosted a _ ha' => rw [ha] at ha'; cases ha'
  | bare hk _ hp =>
    have hrest := hu.rest
    rw [hk] at hrest
    simp only [hk]
    rw [if_neg (take_frontChars ha hp), withoutAuthority_append (frontChars u) hk hp hrest]
    · rw [← ha]
    · unfold frontChars
      rw [ha]
      simp only
      split
      · exact .inr rfl
      · exact .inl rfl

/-- **A URL in its final form is read from its own text**, if that is read at all. -/
theorem eq_of_parse_toChars (hu : u.IsNormal) (h : parse u.toChars = .ok x) : x = u := by
  have hchars := hu.chars
  rw [toChars_eq] at h hchars
  rw [parse_append hu.scheme hchars] at h
  obtain ⟨scheme, authority, path, query, fragment⟩ := u
  cases hu.place with
  | file host hk ha hhost hlocal hdrive hp =>
    obtain rfl : authority = some ⟨[], host, none⟩ := ha
    obtain rfl : scheme = fileScheme := eq_fileScheme hk
    simp only [kind_fileScheme, frontChars, toChars_host, List.cons_append] at h
    rw [fileUrl_cons, List.head?_cons, Option.any_some, if_pos (by decide), List.tail_cons] at h
    exact fileWithHost_append hhost hlocal hdrive hp hu.rest h
  | hosted a hk ha hn hp =>
    obtain rfl : authority = some a := ha
    simp only [frontChars, List.cons_append] at h
    cases hkind : SchemeKind.of scheme with
    | file => exact absurd hkind hk
    | special =>
      have hne : a.host ≠ [] := fun he => by
        have hplain := (hn.empty he).2
        rw [hkind] at hplain
        cases hplain
      simp only [hkind, takeWhile_isSlash hn hne] at h
      exact afterSlashes_append hn hp hu.rest h
    | plain =>
      simp only [hkind, List.take_succ_cons, List.take_zero, if_true] at h
      exact afterSlashes_append hn hp hu.rest h
  | bare hk ha hp =>
    have hread := parse_toChars_of_bare hu ha
    rw [toChars_eq, parse_append hu.scheme hchars] at hread
    exact (Except.ok.inj (hread.symm.trans h)).symm

/-! ## Fragments -/

theorem withRest_dropWhile_append (u : Url) (h : '#' ∉ text) (fragment : List Char) :
    withRest u ((text ++ '#' :: fragment).dropWhile (!endsPath ·)) =
      (withRest u (text.dropWhile (!endsPath ·))).withFragmentText fragment := by
  rw [Text.dropWhile_append_cons (by decide)]
  exact withRest_append_fragment u (fun hm => h ((List.dropWhile_sublist _).subset hm))
    (head?_dropWhile_endsPath h) fragment

/-- An authority is read whether or not the text goes on. -/
theorem authorityOf_of_more {a : Authority} (h : authorityOf scheme text true = .ok a)
    (more : Bool) : authorityOf scheme text more = .ok a := by
  obtain ⟨⟨credentials, address⟩, hc⟩ : ∃ p, splitCredentials text = p := ⟨_, rfl⟩
  obtain ⟨⟨host, port⟩, hp⟩ : ∃ p, splitPort false address = p := ⟨_, rfl⟩
  by_cases hne : host = []
  · subst hne
    rw [authorityOf_of_eq_nil hc hp] at h ⊢
    split at h
    · cases h
    rename_i hguard
    rw [if_neg, h]
    cases more with
    | true => exact hguard
    | false =>
      simp only [Bool.or_eq_true, not_or] at hguard ⊢
      exact ⟨hguard.1, by simp⟩
  · rwa [authorityOf_of_ne_nil hc hp hne] at h ⊢

theorem afterSlashes_append_fragment (hsharp : '#' ∉ text)
    (h : afterSlashes scheme (text ++ '#' :: fragment) = .ok x) :
    ∃ y, afterSlashes scheme text = .ok y ∧ x = y.withFragmentText fragment := by
  have hends : (!(isSlash (SchemeKind.of scheme).isSpecial '#' || endsPath '#')) = false := by
    simp [endsPath]
  obtain ⟨a, ha, h⟩ := Uri.bind_eq_ok_iff.1 h
  rw [Text.takeWhile_append_cons hends, Text.dropWhile_append_cons hends] at ha
  have ha' : authorityOf scheme (text.takeWhile
      fun c => !(isSlash (SchemeKind.of scheme).isSpecial c || endsPath c)) true = .ok a := by
    simpa using ha
  refine ⟨_, Uri.bind_eq_ok_iff.2 ⟨a, authorityOf_of_more ha' _, rfl⟩, ?_⟩
  rw [← Except.ok.inj h, ← withRest_dropWhile_append _ fun hm =>
    hsharp ((List.dropWhile_sublist _).subset hm), Text.dropWhile_append_cons hends,
    Text.takeWhile_append_cons (by decide)]

theorem fileAt_append_fragment (host : List Char) (h : '#' ∉ text) (fragment : List Char) :
    fileAt host (text ++ '#' :: fragment) = (fileAt host text).withFragmentText fragment := by
  unfold fileAt
  rw [Text.takeWhile_append_cons (by decide), withRest_dropWhile_append _ h]

theorem fileWithHost_append_fragment (hsharp : '#' ∉ text)
    (h : fileWithHost (text ++ '#' :: fragment) = .ok x) :
    ∃ y, fileWithHost text = .ok y ∧ x = y.withFragmentText fragment := by
  have hends : (!endsHost '#') = false := rfl
  rw [fileWithHost_eq (Text.takeWhile_append_cons hends), Text.dropWhile_append_cons hends] at h
  obtain ⟨host, hhost, rfl⟩ := Uri.map_eq_ok_iff.1 h
  refine ⟨_, (fileWithHost_eq rfl).trans (Uri.map_eq_ok_iff.2 ⟨host, hhost, rfl⟩), ?_⟩
  rw [← fileAt_append_fragment _ fun hm => hsharp ?_]
  · split <;> rfl
  · split at hm
    · exact hm
    · exact (List.dropWhile_sublist _).subset hm

theorem fileUrl_append_fragment (hsharp : '#' ∉ rest)
    (h : fileUrl none ('/' :: (rest ++ '#' :: fragment)) = .ok x) :
    ∃ y, fileUrl none ('/' :: rest) = .ok y ∧ x = y.withFragmentText fragment := by
  rw [fileUrl_cons] at h ⊢
  cases rest with
  | nil =>
    cases h
    exact ⟨_, rfl, fileAt_append_fragment [] hsharp fragment⟩
  | cons c more =>
    rw [List.cons_append, List.head?_cons, Option.any_some, List.tail_cons] at h
    rw [List.head?_cons, Option.any_some, List.tail_cons]
    split at h
    · rename_i hslash
      rw [if_pos hslash]
      exact fileWithHost_append_fragment (fun hm => hsharp (List.mem_cons_of_mem _ hm)) h
    · rename_i hslash
      rw [if_neg hslash]
      cases h
      exact ⟨_, rfl, fileAt_append_fragment [] hsharp fragment⟩

theorem withoutAuthority_append_fragment (scheme : List Char) (h : '#' ∉ text)
    (fragment : List Char) :
    withoutAuthority scheme (text ++ '#' :: fragment) =
      (withoutAuthority scheme text).withFragmentText fragment := by
  unfold withoutAuthority
  rw [Text.takeWhile_append_cons (by decide), withRest_dropWhile_append _ h]

/-- **A fragment at the end of a text is read apart from the rest.** -/
theorem parse_append_fragment (hs : Uri.IsScheme scheme)
    (hc : ∀ c ∈ scheme ++ ':' :: '/' :: rest, 0x20 < c.toNat) (hf : ∀ c ∈ fragment, 0x20 < c.toNat)
    (hsharp : '#' ∉ rest)
    (h : parse (scheme ++ ':' :: '/' :: rest ++ '#' :: fragment) = .ok x) :
    ∃ y, parse (scheme ++ ':' :: '/' :: rest) = .ok y ∧ x = y.withFragmentText fragment := by
  have hsharp' : '#' ∉ '/' :: rest := by simpa using hsharp
  rw [List.append_assoc, List.cons_append, parse_append hs] at h
  · rw [parse_append hs hc]
    cases hk : SchemeKind.of scheme with
    | file =>
      simp only [hk] at h ⊢
      exact fileUrl_append_fragment hsharp h
    | special =>
      have hlength : (('/' :: rest).takeWhile (isSlash true)).length ≤ ('/' :: rest).length :=
        (List.takeWhile_sublist _).length_le
      simp only [hk] at h ⊢
      rw [Text.takeWhile_append_cons (by decide), List.drop_append_of_le_length hlength] at h
      exact afterSlashes_append_fragment (fun hm => hsharp' (List.mem_of_mem_drop hm)) h
    | plain =>
      simp only [hk] at h ⊢
      cases rest with
      | nil =>
        cases h
        exact ⟨_, rfl, withoutAuthority_append_fragment scheme hsharp' fragment⟩
      | cons c more =>
        have htake : ('/' :: c :: more ++ '#' :: fragment).take 2 = ('/' :: c :: more).take 2 := rfl
        rw [htake] at h
        split at h
        · rename_i hslashes
          rw [if_pos hslashes]
          exact afterSlashes_append_fragment (fun hm => hsharp' (List.mem_of_mem_drop hm)) h
        · rename_i hslashes
          rw [if_neg hslashes]
          cases h
          exact ⟨_, rfl, withoutAuthority_append_fragment scheme hsharp' fragment⟩
  · rw [← List.cons_append, ← List.append_assoc]
    exact List.forall_mem_append.2 ⟨hc, List.forall_mem_cons.2 ⟨by decide, hf⟩⟩

end JsonSchema.Url
