import JsonSchema.Idna
import JsonSchema.Proofs.Split
import Mathlib

/-!
# Host names in ASCII are in their final form

* `isAsciiText_of_toAscii?`: the ASCII form of a name is in ASCII.
* `eq_of_toAscii?`: a name in ASCII without capital letters is its own ASCII form, if it has one.
-/

namespace JsonSchema

/-- Every character of a text is within ASCII. -/
def IsAsciiText (cs : List Char) : Prop :=
  ∀ c ∈ cs, c.toNat < 0x80

theorem isAsciiText_append {cs ds : List Char} :
    IsAsciiText (cs ++ ds) ↔ IsAsciiText cs ∧ IsAsciiText ds := by
  simp only [IsAsciiText, List.forall_mem_append]

namespace Punycode

theorem digitChar_lt : ∀ d < 36, (digitChar d).toNat < 0x80 := by
  decide

theorem threshold_le (k bias : Nat) : threshold k bias ≤ 26 := by
  unfold threshold
  omega

theorem isAsciiText_digits (bias k q : Nat) : IsAsciiText (digits bias k q) := by
  have ht := threshold_le k bias
  fun_induction digits bias k q with
  | case1 k q t hq =>
    intro c hc
    rw [List.mem_singleton.1 hc]
    exact digitChar_lt _ (by omega)
  | case2 k q t hq ih =>
    intro c hc
    rcases List.mem_cons.1 hc with rfl | hc
    · have hmod : (q - t) % (36 - t) < 36 - t := Nat.mod_lt _ (by omega)
      exact digitChar_lt _ (by omega)
    · exact ih (threshold_le _ _) c hc

theorem isAsciiText_place {m : Nat} {e : Encoder} (h : IsAsciiText e.output) (c : Nat) :
    IsAsciiText (e.place m c).output := by
  unfold Encoder.place
  split
  · exact h
  split
  · exact isAsciiText_append.2
      ⟨fun d hd => isAsciiText_digits _ _ _ d (List.mem_reverse.1 hd), h⟩
  · exact h

theorem isAsciiText_foldl_place {m : Nat} {e : Encoder} (h : IsAsciiText e.output)
    (input : List Nat) : IsAsciiText (input.foldl (Encoder.place m) e).output := by
  induction input generalizing e with
  | nil => exact h
  | cons c rest ih => exact ih (isAsciiText_place h c)

theorem isAsciiText_run {input : List Nat} {n : Nat} {e : Encoder} (h : IsAsciiText e.output)
    (others : List Nat) : IsAsciiText (Encoder.run input n e others).output := by
  induction others generalizing n e with
  | nil => exact h
  | cons m rest ih =>
    simp only [Encoder.run]
    exact ih (isAsciiText_foldl_place (by exact h) input)

/-- Punycode is in ASCII. -/
theorem isAsciiText_encode (cs : List Char) : IsAsciiText (encode cs) := by
  simp only [encode, isAsciiText_append]
  refine ⟨⟨fun c hc => ?_, ?_⟩, fun c hc => ?_⟩
  · simpa using (List.mem_filter.1 hc).2
  · split
    · exact nofun
    · intro c hc
      rw [List.mem_singleton.1 hc]
      decide
  · exact isAsciiText_run (e := ⟨_, _, _, _, []⟩) nofun _ c (List.mem_reverse.1 hc)

end Punycode

namespace Idna

variable {text domain result : List Char} {l : Label}

theorem isAscii_iff : isAscii text ↔ IsAsciiText text := by
  simp [isAscii, IsAsciiText]

/-- The form of a label for look-up is in ASCII, and is the label itself if that is. -/
theorem ascii_of_of? (h : Label.of? text = some l) :
    IsAsciiText l.ascii ∧ (IsAsciiText text → l.ascii = text) := by
  unfold Label.of? at h
  split at h
  · obtain ⟨shown, -, h⟩ := Option.bind_eq_some_iff.1 h
    split at h
    · cases h
    · rename_i hc
      cases h
      simp only [Bool.or_eq_true, not_or, Bool.not_eq_true, Bool.not_eq_false'] at hc
      exact ⟨isAscii_iff.1 hc.1.1.1, fun _ => rfl⟩
  split at h
  · rename_i ha
    cases h
    exact ⟨isAscii_iff.1 ha, fun _ => rfl⟩
  split at h
  · rename_i ha _
    cases h
    have hace : IsAsciiText acePrefix := List.all_iff_forall_prop.1 (by decide)
    exact ⟨isAsciiText_append.2 ⟨hace, Punycode.isAsciiText_encode _⟩,
      fun ht => absurd (isAscii_iff.2 ht) ha⟩
  · cases h

theorem ascii_of_mapM {labels : List Label} {texts : List (List Char)}
    (h : texts.mapM Label.of? = some labels) :
    (∀ l ∈ labels, IsAsciiText l.ascii) ∧
      ((∀ t ∈ texts, IsAsciiText t) → labels.map Label.ascii = texts) := by
  induction texts generalizing labels with
  | nil =>
    cases h
    exact ⟨nofun, fun _ => rfl⟩
  | cons t rest ih =>
    rw [List.mapM_cons] at h
    obtain ⟨l, hl, h⟩ := Option.bind_eq_some_iff.1 h
    obtain ⟨ls, hls, h⟩ := Option.bind_eq_some_iff.1 h
    cases h
    obtain ⟨hascii, hsame⟩ := ascii_of_of? hl
    obtain ⟨hrest, hrestsame⟩ := ih hls
    refine ⟨List.forall_mem_cons.2 ⟨hascii, hrest⟩, fun ht => ?_⟩
    obtain ⟨ht, hts⟩ := List.forall_mem_cons.1 ht
    rw [List.map_cons, hsame ht, hrestsame hts]

/-- What an ASCII form consists of. -/
theorem toAscii?_eq_some (h : toAscii? domain = some result) :
    ∃ labels, labels? domain = some labels ∧ result = Text.join '.' (labels.map Label.ascii) ∧
      ∀ c ∈ result, isForbidden c = false := by
  obtain ⟨labels, hl, h⟩ := Option.bind_eq_some_iff.1 h
  refine ⟨labels, hl, ?_⟩
  split at h
  · cases h
  simp only at h
  split at h
  · cases h
  · rename_i hf
    cases h
    exact ⟨rfl, by simpa using hf⟩

/-- **An ASCII form is in ASCII**, without forbidden characters. -/
theorem isAsciiText_of_toAscii? (h : toAscii? domain = some result) :
    IsAsciiText result ∧ ∀ c ∈ result, isForbidden c = false := by
  obtain ⟨labels, hl, rfl, hf⟩ := toAscii?_eq_some h
  refine ⟨fun c hc => ?_, hf⟩
  obtain ⟨mapped, -, hm⟩ := Option.bind_eq_some_iff.1 hl
  rcases Text.mem_join hc with rfl | ⟨piece, hp, hc⟩
  · decide
  · obtain ⟨l, hl, rfl⟩ := List.mem_map.1 hp
    exact (ascii_of_mapM hm).1 l hl c hc

theorem mapped?_of_isAsciiText (ha : IsAsciiText text) (hf : ∀ c ∈ text, isForbidden c = false) :
    mapped? text = some text := by
  induction text with
  | nil => rfl
  | cons c rest ih =>
    obtain ⟨hc, hrest⟩ := List.forall_mem_cons.1 ha
    obtain ⟨hfc, hfrest⟩ := List.forall_mem_cons.1 hf
    have hclass : HostChar.classify c = .kept := by
      have hup : ('A' ≤ c && c ≤ 'Z') = false := by
        simp only [isForbidden, Bool.or_eq_false_iff] at hfc
        exact hfc.1.2
      rw [HostChar.classify, if_pos hc, hup]
      rfl
    rw [mapped?, ih hrest hfrest]
    simp only [hclass]
    rfl

/-- **A name in ASCII without forbidden characters is its own ASCII form**, if it has one. -/
theorem eq_of_toAscii? (ha : IsAsciiText domain) (hf : ∀ c ∈ domain, isForbidden c = false)
    (h : toAscii? domain = some result) : result = domain := by
  obtain ⟨labels, hl, rfl, -⟩ := toAscii?_eq_some h
  have hcompose : Unicode.compose domain = domain := by
    rw [Unicode.compose, if_pos]
    simpa [IsAsciiText] using ha
  rw [labels?, mapped?_of_isAsciiText ha hf] at hl
  have hl' : (Text.split '.' (Unicode.compose domain)).mapM Label.of? = some labels := hl
  rw [hcompose] at hl'
  rw [(ascii_of_mapM hl').2 fun t ht c hc => ha c (Text.subset_of_mem_split ht hc),
    Text.join_split]

end Idna

end JsonSchema
