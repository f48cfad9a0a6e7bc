import JsonSchema.Proofs.Url
import Mathlib

/-!
# What a URL is read from

A text is read from left to right: a scheme and slashes are cut off, and what is left goes into a
new URL or into a copy of the base. What holds of every URL that is read needs one look at each of
these places.

* `ReadFrom`: the URLs that are read from a text, with one rule for each place where the reading of
  the text in front ends.
* `readFrom_of_parseWith`: every URL that is read from a text without blanks is one of these.
-/

namespace JsonSchema.Url

variable {base other : Option Url} {b x : Url} {scheme text : List Char}

/-! ## Parts of texts -/

theorem endsPath_eq_false_iff {c : Char} : endsPath c = false ↔ c ≠ '?' ∧ c ≠ '#' := by
  simp [endsPath]

theorem endsPath_of_isSlash {special : Bool} {c : Char} (h : isSlash special c = true) :
    endsPath c = false := by
  simp only [isSlash, Bool.or_eq_true, Bool.and_eq_true, decide_eq_true_eq] at h
  rcases h with rfl | ⟨-, rfl⟩ <;> decide

theorem drop_takeWhile_length (p : Char → Bool) (text : List Char) :
    text.drop (text.takeWhile p).length = text.dropWhile p := by
  have hsplit := List.takeWhile_append_dropWhile (p := p) (l := text)
  calc text.drop (text.takeWhile p).length
    _ = (text.takeWhile p ++ text.dropWhile p).drop (text.takeWhile p).length := by rw [hsplit]
    _ = text.dropWhile p := List.drop_left

/-- A scheme is read from the name in front of the first colon. -/
theorem exists_of_splitScheme {rest : List Char} (h : splitScheme text = some (scheme, rest)) :
    ∃ name, (∀ c ∈ name, Uri.isSchemeChar c = true) ∧
      scheme = name.map CharClass.toAsciiLower ∧ text = name ++ ':' :: rest := by
  unfold splitScheme at h
  simp only [drop_takeWhile_length] at h
  split at h
  · rename_i tail hdrop
    split at h
    · obtain ⟨rfl, rfl⟩ := Prod.mk.inj (Option.some.inj h)
      refine ⟨text.takeWhile Uri.isSchemeChar, fun c => List.mem_takeWhile_imp, rfl, ?_⟩
      rw [← hdrop]
      exact List.takeWhile_append_dropWhile.symm
    · cases h
  · cases h

/-- The characters of a scheme are those of its name, in lower case. -/
theorem isSchemeChar_of_splitScheme {rest : List Char}
    (h : splitScheme text = some (scheme, rest)) : ∀ c ∈ scheme, Uri.isSchemeChar c = true := by
  obtain ⟨name, hname, rfl, -⟩ := exists_of_splitScheme h
  exact List.forall_mem_map.2 fun c hc => (Uri.isSchemeChar_toAsciiLower (hname c hc)).1

/-! ## Reading -/

/-- A file URL without host and path. -/
def freshFile : Url :=
  ⟨fileScheme, some ⟨[], [], none⟩, [], none, none⟩

/-- The URLs that are read from a text, with a base or without one. -/
inductive ReadFrom (base : Option Url) : List Char → Url → Prop
  /-- A scheme or slashes in front are cut off. -/
  | skip {before text : List Char} {u : Url} (hb : ∀ c ∈ before, endsPath c = false)
      (h : ReadFrom base text u) : ReadFrom base (before ++ text) u
  /-- An authority follows a scheme. -/
  | authority {scheme text : List Char} {u : Url} (hs : ∀ c ∈ scheme, Uri.isSchemeChar c = true)
      (h : afterSlashes scheme text = .ok u) : ReadFrom base text u
  /-- An authority takes the place of that of the base. -/
  | authorityOver {b u : Url} {text : List Char} (hb : b ∈ base)
      (h : afterSlashes b.scheme text = .ok u) : ReadFrom base text u
  /-- A path follows a scheme. -/
  | bare {scheme : List Char} (hs : ∀ c ∈ scheme, Uri.isSchemeChar c = true) (text : List Char) :
      ReadFrom base text (withoutAuthority scheme text)
  /-- The host of a file is written. -/
  | fileHost {text : List Char} {u : Url} (h : fileWithHost text = .ok u) : ReadFrom base text u
  /-- A file has no host. -/
  | file (text : List Char) : ReadFrom base text (relativePath freshFile [] text)
  /-- A file is on the drive of the base. -/
  | fileOnDrive {b : Url} (hb : b ∈ base) (text : List Char) :
      ReadFrom base text (relativePath freshFile [(b.path.drop 1).takeWhile (· ≠ '/')] text)
  /-- A file is on the host of the base. -/
  | fileOnHost {b : Url} (hb : b ∈ base) (text : List Char) :
      ReadFrom base text (relativePath { freshFile with authority := b.authority } [] text)
  /-- A path takes the place of the last segment of that of the base. -/
  | sibling {b : Url} (hb : b ∈ base) (kind : SchemeKind) (text : List Char) :
      ReadFrom base text (relativePath b (parentSegments kind b.path) text)
  /-- A path takes the place of that of the base. -/
  | rooted {b : Url} (hb : b ∈ base) (text : List Char) :
      ReadFrom base text
        (withRest { b with path := buildPath (.of b.scheme) [] (text.takeWhile (!endsPath ·)) }
          (text.dropWhile (!endsPath ·)))
  /-- A query takes the place of that of the base. -/
  | query {b : Url} (hb : b ∈ base) (rest : List Char) :
      ReadFrom base ('?' :: rest) (withRest b ('?' :: rest))
  /-- A fragment takes the place of that of the base. -/
  | fragment {b : Url} (hb : b ∈ base) (rest : List Char) :
      ReadFrom base ('#' :: rest) (b.withFragmentText rest)
  /-- The base itself is meant. -/
  | whole {b : Url} (hb : b ∈ base) : ReadFrom base [] { b with fragment := none }

namespace ReadFrom

theorem cons {c : Char} (hc : endsPath c = false) (h : ReadFrom base text x) :
    ReadFrom base (c :: text) x :=
  skip (List.forall_mem_singleton.2 hc) h

theorem of_dropWhile {p : Char → Bool} (hp : ∀ c, p c = true → endsPath c = false)
    (h : ReadFrom base (text.dropWhile p) x) : ReadFrom base text x := by
  rw [← List.takeWhile_append_dropWhile (p := p) (l := text)]
  exact skip (fun c hc => hp c (List.mem_takeWhile_imp hc)) h

theorem of_drop_slashes (h : ReadFrom base (text.drop (text.takeWhile (isSlash true)).length) x) :
    ReadFrom base text x := by
  rw [drop_takeWhile_length] at h
  exact of_dropWhile (fun c => endsPath_of_isSlash) h

theorem of_drop_two (ht : text.take 2 = ['/', '/']) (h : ReadFrom base (text.drop 2) x) :
    ReadFrom base text x := by
  rw [← List.take_append_drop 2 text, ht]
  exact skip (by simp [endsPath]) h

theorem fileAfterSlash (hb : ∀ b ∈ other, b ∈ base) (rest : List Char) :
    ReadFrom base rest (fileUrl.fileAfterSlash other freshFile rest) := by
  unfold fileUrl.fileAfterSlash
  cases other with
  | none => exact file rest
  | some b =>
    simp only
    split
    · exact file rest
    split
    · exact fileOnDrive (hb b rfl) rest
    · exact fileOnHost (hb b rfl) rest

end ReadFrom

/-- A file URL is read with the base or without it. -/
theorem readFrom_of_fileUrl (hb : ∀ b ∈ other, b ∈ base) (h : fileUrl other text = .ok x) :
    ReadFrom base text x := by
  unfold fileUrl at h
  cases text with
  | nil =>
    cases other with
    | none =>
      cases h
      exact .file []
    | some b =>
      cases h
      exact .whole (hb b rfl)
  | cons c rest =>
    simp only at h
    split at h
    · rename_i hc
      refine .cons (endsPath_of_isSlash hc) ?_
      cases rest with
      | nil =>
        cases h
        exact .fileAfterSlash hb []
      | cons d more =>
        simp only at h
        split at h
        · rename_i hd
          exact .cons (endsPath_of_isSlash hd) (.fileHost h)
        · cases h
          exact .fileAfterSlash hb (d :: more)
    · cases other with
      | none =>
        cases h
        exact .file _
      | some b =>
        simp only at h
        split at h
        · rename_i hc
          subst hc
          cases h
          exact .query (hb b rfl) rest
        split at h
        · rename_i hc
          subst hc
          cases h
          exact .fragment (hb b rfl) rest
        split at h
        · cases h
          exact .file _
        · cases h
          exact .sibling (hb b rfl) _ _

theorem readFrom_of_relativeTo (hb : b ∈ base) (h : relativeTo b text = .ok x) :
    ReadFrom base text x := by
  unfold relativeTo at h
  split at h
  · cases h
    exact .whole hb
  · cases h
    exact .query hb _
  · cases h
    exact .fragment hb _
  · rename_i c rest hquery hsharp
    split at h
    · simp only at h
      split at h
      · split at h
        · rename_i htake
          exact .of_drop_two htake (.authorityOver hb h)
        · exact .of_drop_slashes (.authorityOver hb h)
      · cases h
        exact .cons (endsPath_eq_false_iff.2 ⟨hquery, hsharp⟩) (.rooted hb rest)
    · cases h
      exact .sibling hb _ _

/-- **Every URL is read by one of the rules**, from a text without blanks. -/
theorem readFrom_of_parseWith (hc : ∀ c ∈ text, 0x20 < c.toNat)
    (h : parseWith base text = .ok x) : ReadFrom base text x := by
  have hfilter {p : Url → Bool} : ∀ b ∈ base.filter p, b ∈ base := fun _ hb =>
    (Option.filter_eq_some_iff.1 hb).1
  unfold parseWith at h
  simp only [clean_of_blank hc] at h
  split at h
  · rename_i scheme rest hscheme
    have hs := isSchemeChar_of_splitScheme hscheme
    obtain ⟨name, hname, -, rfl⟩ := exists_of_splitScheme hscheme
    refine .skip (fun c hc => ?_) (.cons (by decide) ?_)
    · have hchar := hname c hc
      rw [endsPath_eq_false_iff]
      constructor <;> rintro rfl <;> cases hchar
    split at h
    · exact readFrom_of_fileUrl hfilter h
    · split at h
      · rename_i b hbase
        exact readFrom_of_relativeTo (hfilter b hbase) h
      · exact .of_drop_slashes (.authority hs h)
    · split at h
      · rename_i htake
        exact .of_drop_two htake (.authority hs h)
      · cases h
        exact .bare hs rest
  · cases base with
    | none => cases h
    | some b =>
      simp only at h
      split at h
      · cases h
        exact .fragment rfl _
      split at h
      · cases h
      split at h
      · exact readFrom_of_fileUrl (fun _ => id) h
      · exact readFrom_of_relativeTo rfl h

end JsonSchema.Url
