import JsonSchema.Proofs.DotSegments
import JsonSchema.Uri.Basic
import Mathlib

/-!
# URI references and their texts

* `parse_eq_ok_iff`: which texts are read as a reference, part by part.
* `toChars_of_parseMain`: a reference that was read is written as its text, but for the scheme.
* `parse_append`: a fragment at the end of a text is read apart from the rest.
* `IsClean`: no character in front of the fragment needs an escape, and the scheme is a name.
-/

namespace JsonSchema.Uri

variable {u : Uri} {text rest : List Char} {place : Nat}

/-! ## Texts of references -/

/-- A scheme with its colon. -/
def schemePart : Option (List Char) → List Char
  | none => []
  | some scheme => scheme ++ [':']

theorem toChars_eq (u : Uri) :
    u.toChars = schemePart u.scheme ++
      (part ['/', '/'] u.authority ++ u.path ++ part ['?'] u.query) ++ part ['#'] u.fragment := by
  obtain ⟨scheme, authority, path, query, fragment⟩ := u
  cases scheme <;> simp [toChars, schemePart]

theorem toChars_withFragment_some (u : Uri) (fragment : List Char) :
    (u.withFragment (some fragment)).toChars =
      (u.withFragment none).toChars ++ '#' :: fragment := by
  simp [toChars, withFragment, part]

theorem withFragment_self (h : u.fragment = none) : u.withFragment none = u := by
  cases u
  cases h
  rfl

theorem eq_empty_of_toChars_eq_nil (h : u.toChars = []) : u = .empty := by
  obtain ⟨scheme, authority, path, query, fragment⟩ := u
  simp only [toChars, List.append_eq_nil_iff] at h
  obtain ⟨⟨⟨⟨hs, ha⟩, rfl⟩, hq⟩, hf⟩ := h
  have hpart {before : List Char} {p : Option (List Char)} (hb : before ≠ [])
      (hp : part before p = []) : p = none := by
    cases p with
    | none => rfl
    | some text => exact absurd (List.append_eq_nil_iff.1 hp).1 hb
  obtain rfl : scheme = none := by
    cases scheme with
    | none => rfl
    | some s => simp at hs
  rw [hpart (by simp) ha, hpart (by simp) hq, hpart (by simp) hf]
  rfl

/-! ## Characters -/

/-- A text without forbidden characters and broken escapes. -/
def IsWritable : List Char → Prop
  | [] => True
  | c :: rest => isForbidden c = false ∧ (c = '%' → startsWithTwoHex rest = true) ∧ IsWritable rest

theorem checkCharacters_eq_ok_iff : checkCharacters place text = .ok () ↔ IsWritable text := by
  induction text generalizing place with
  | nil => simp [checkCharacters, IsWritable]
  | cons c rest ih =>
    unfold checkCharacters IsWritable
    cases hc : isForbidden c with
    | true => simp
    | false =>
      by_cases hp : c = '%' ∧ startsWithTwoHex rest = false
      · rw [if_neg Bool.false_ne_true, if_pos hp]
        simp [hp.1, hp.2]
      · rw [if_neg Bool.false_ne_true, if_neg hp, ih]
        rw [not_and, Bool.not_eq_false] at hp
        simpa using fun _ => hp

theorem findIllegal_eq_ok_iff {illegal : Char → Bool} :
    findIllegal illegal place text = .ok () ↔ ∀ c ∈ text, illegal c = false := by
  induction text generalizing place with
  | nil => simp [findIllegal]
  | cons c rest ih =>
    unfold findIllegal
    cases hc : illegal c with
    | true => simp [hc]
    | false => simp [ih, hc]

theorem isForbidden_of_mem {c : Char} (h : IsWritable text) (hc : c ∈ text) :
    isForbidden c = false := by
  induction text with
  | nil => cases hc
  | cons d rest ih =>
    rcases List.mem_cons.1 hc with rfl | hc
    · exact h.1
    · exact ih h.2.2 hc

/-- A separator keeps the escapes before it apart from the text after it. -/
theorem isWritable_append_cons {c : Char} (hc : CharClass.isHexDigit c = false)
    (hp : c ≠ '%') (hf : isForbidden c = false) :
    IsWritable (text ++ c :: rest) ↔ IsWritable text ∧ IsWritable rest := by
  have hhex : ∀ t : List Char,
      startsWithTwoHex (t ++ c :: rest) = startsWithTwoHex t := by
    intro t
    rcases t with _ | ⟨a, _ | ⟨b, more⟩⟩
    · cases rest <;> simp [startsWithTwoHex, hc]
    · simp [startsWithTwoHex, hc]
    · rfl
  induction text with
  | nil => simp [IsWritable, hf, hp]
  | cons d more ih =>
    simp only [List.cons_append, IsWritable, hhex, ih, and_assoc]

/-! ## Reading -/

theorem splitOptional_of_notMem {c : Char} (h : c ∉ text) :
    splitOptional c text = (text, none) := by
  rw [splitOptional, Text.cut?_of_notMem h]

theorem splitOptional_append {c : Char} {before : List Char} (h : c ∉ before)
    (after : List Char) : splitOptional c (before ++ c :: after) = (before, some after) := by
  rw [splitOptional, Text.cut?_append h]

theorem splitOptional_spec (c : Char) (text : List Char) :
    (splitOptional c text).1 ++ part [c] (splitOptional c text).2 = text ∧
      c ∉ (splitOptional c text).1 := by
  unfold splitOptional
  cases hc : Text.cut? c text with
  | none => exact ⟨List.append_nil text, Text.notMem_of_cut?_eq_none hc⟩
  | some p =>
    obtain ⟨ht, hb⟩ := Text.cut?_eq_some hc
    exact ⟨ht.symm, hb⟩

/-- The reference that a text without fragment writes, characters aside. -/
def parseMain (main : List Char) : Except ParseError Uri := do
  let (scheme, main) ← splitScheme main
  let (main, query) := splitOptional '?' main
  let (authority, path) := splitAuthority main
  if authority.isNone then
    findIllegal (fun c => c = '[' || c = ']') 0 path
  return ⟨scheme, authority, path, query, none⟩

theorem parse_eq (text : List Char) :
    parse text = (do
      checkCharacters 0 text
      findIllegal (· = '#') (Text.byteLength (splitOptional '#' text).1 + 1)
        ((splitOptional '#' text).2.getD [])
      let u ← parseMain (splitOptional '#' text).1
      return u.withFragment (splitOptional '#' text).2) := by
  unfold parse parseMain
  simp only [bind_assoc]
  refine congrArg (_ >>= ·) (funext fun _ => congrArg (_ >>= ·) (funext fun _ =>
    congrArg (_ >>= ·) (funext fun split => ?_)))
  obtain ⟨scheme, main⟩ := split
  simp only
  split
  · rw [bind_assoc]
    rfl
  · rfl

theorem bind_eq_ok_iff {ε α β : Type} {x : Except ε α} {f : α → Except ε β} {b : β} :
    (x >>= f) = .ok b ↔ ∃ a, x = .ok a ∧ f a = .ok b := by
  cases x with
  | error e => simp [bind, Except.bind]
  | ok a => simp [bind, Except.bind]

theorem bind_eq_error_iff {ε α β : Type} {x : Except ε α} {f : α → Except ε β} {e : ε} :
    (x >>= f) = .error e ↔ x = .error e ∨ ∃ a, x = .ok a ∧ f a = .error e := by
  cases x with
  | error e' => simp [bind, Except.bind]
  | ok a => simp [bind, Except.bind]

theorem map_eq_ok_iff {ε α β : Type} {x : Except ε α} {f : α → β} {b : β} :
    x.map f = .ok b ↔ ∃ a, x = .ok a ∧ f a = b := by
  cases x with
  | error e => simp [Except.map]
  | ok a => simp [Except.map]

theorem check_bind_eq_ok_iff {ε β : Type} {x : Except ε Unit} {y : Except ε β} {b : β} :
    (x >>= fun _ => y) = .ok b ↔ x = .ok () ∧ y = .ok b := by
  cases x with
  | error e => simp [bind, Except.bind]
  | ok a => simp [bind, Except.bind]

/-- Which texts are read as a reference: the characters can be written, the fragment has no second
`#`, and the rest is in order. -/
theorem parse_eq_ok_iff :
    parse text = .ok u ↔ IsWritable text ∧ '#' ∉ (splitOptional '#' text).2.getD [] ∧
      ∃ w, parseMain (splitOptional '#' text).1 = .ok w ∧
        u = w.withFragment (splitOptional '#' text).2 := by
  rw [parse_eq, check_bind_eq_ok_iff, check_bind_eq_ok_iff, bind_eq_ok_iff,
    checkCharacters_eq_ok_iff, findIllegal_eq_ok_iff]
  refine and_congr_right fun _ => and_congr ?_ (exists_congr fun w => and_congr_right fun _ => ?_)
  · simp only [decide_eq_false_iff_not]
    exact ⟨fun h hm => h _ hm rfl, fun h c hm he => h (he ▸ hm)⟩
  · exact ⟨fun h => (Except.ok.inj h).symm, fun h => congrArg Except.ok h.symm⟩

theorem parse_of_notMem (h : '#' ∉ text) :
    parse text = .ok u ↔
      IsWritable text ∧ ∃ w, parseMain text = .ok w ∧ u = w.withFragment none := by
  rw [parse_eq_ok_iff, splitOptional_of_notMem h]
  simp

theorem parse_append {fragment : List Char} (h : '#' ∉ text) :
    parse (text ++ '#' :: fragment) = .ok u ↔ (IsWritable text ∧ IsWritable fragment) ∧
      '#' ∉ fragment ∧ ∃ w, parseMain text = .ok w ∧ u = w.withFragment (some fragment) := by
  rw [parse_eq_ok_iff, splitOptional_append h,
    isWritable_append_cons (by decide) (by decide) (by decide)]
  rfl

theorem splitScheme_eq_ok {scheme : Option (List Char)}
    (h : splitScheme text = .ok (scheme, rest)) :
    (scheme = none ∧ text = rest) ∨ ∃ name, scheme = some (name.map CharClass.toAsciiLower) ∧
      isSchemeName name ∧ text = name ++ ':' :: rest := by
  unfold splitScheme at h
  cases hc : Text.cut? ':' text with
  | none => simp only [hc] at h; cases h; exact .inl ⟨rfl, rfl⟩
  | some p =>
    obtain ⟨name, after⟩ := p
    simp only [hc] at h
    split at h
    · cases h; exact .inl ⟨rfl, rfl⟩
    split at h
    · rename_i hs
      cases h
      exact .inr ⟨name, rfl, hs, (Text.cut?_eq_some hc).1⟩
    · cases h

theorem splitAuthority_spec (path : List Char) :
    part ['/', '/'] (splitAuthority path).1 ++ (splitAuthority path).2 = path := by
  unfold splitAuthority
  split
  · simp [part, List.takeWhile_append_dropWhile]
  · rfl

/-- What is read from a text without fragment, part by part. -/
theorem parseMain_eq_ok (h : parseMain text = .ok u) :
    ∃ rest, splitScheme text = .ok (u.scheme, rest) ∧ u.fragment = none ∧
      splitOptional '?' rest = ((splitOptional '?' rest).1, u.query) ∧
      splitAuthority (splitOptional '?' rest).1 = (u.authority, u.path) := by
  obtain ⟨⟨scheme, rest⟩, hs, h⟩ := bind_eq_ok_iff.1 h
  have hu : u = ⟨scheme, (splitAuthority (splitOptional '?' rest).1).1,
      (splitAuthority (splitOptional '?' rest).1).2, (splitOptional '?' rest).2, none⟩ := by
    simp only at h
    split at h
    · exact (Except.ok.inj (check_bind_eq_ok_iff.1 h).2).symm
    · exact (Except.ok.inj h).symm
  subst hu
  exact ⟨rest, hs, rfl, rfl, rfl⟩

/-- A reference that was read is written as its text, with the scheme in lower case. -/
theorem toChars_of_parseMain (h : parseMain text = .ok u) :
    ∃ rest, splitScheme text = .ok (u.scheme, rest) ∧ u.toChars = schemePart u.scheme ++ rest := by
  obtain ⟨rest, hs, hf, hq, ha⟩ := parseMain_eq_ok h
  have hrest := (splitOptional_spec '?' rest).1
  rw [hq] at hrest
  have hmain := splitAuthority_spec (splitOptional '?' rest).1
  rw [ha] at hmain
  refine ⟨rest, hs, ?_⟩
  rw [toChars_eq, hf, ← hrest, ← hmain]
  simp [part]

/-! ## Clean references -/

/-- A text without forbidden characters that holds no `#` either. -/
def IsCleanText (text : List Char) : Prop :=
  ∀ c ∈ text, isForbidden c = false ∧ c ≠ '#'

/-- A scheme name in lower case. -/
def IsScheme (scheme : List Char) : Prop :=
  isSchemeName scheme ∧ scheme.map CharClass.toAsciiLower = scheme

/-- A reference whose parts are clean. -/
structure IsClean (u : Uri) : Prop where
  scheme : ∀ scheme, u.scheme = some scheme → IsScheme scheme
  authority : IsCleanText (part ['/', '/'] u.authority)
  path : IsCleanText u.path
  query : IsCleanText (part ['?'] u.query)
  fragment : IsCleanText (u.fragment.getD [])

theorem isCleanText_append {cs ds : List Char} :
    IsCleanText (cs ++ ds) ↔ IsCleanText cs ∧ IsCleanText ds := by
  simp only [IsCleanText, List.forall_mem_append]

theorem isCleanText_cons {c : Char} {cs : List Char} :
    IsCleanText (c :: cs) ↔ (isForbidden c = false ∧ c ≠ '#') ∧ IsCleanText cs :=
  List.forall_mem_cons

/-- What holds of the characters of ASCII one by one. -/
@[elab_as_elim]
theorem of_isAscii {motive : Char → Prop} {c : Char} (hc : c.toNat < 0x80)
    (h : ∀ n < 0x80, motive (Char.ofNat n)) : motive c :=
  Char.ofNat_toNat c ▸ h c.toNat hc

/-- Characters of scheme names. -/
def isSchemeChar (c : Char) : Bool :=
  CharClass.isAsciiAlphanumeric c || c = '+' || c = '-' || c = '.'

theorem isSchemeName_iff {name : List Char} : isSchemeName name ↔
    name.head?.any CharClass.isAsciiLetter ∧ ∀ c ∈ name, isSchemeChar c = true := by
  cases name with
  | nil => simp [isSchemeName]
  | cons c rest =>
    rw [isSchemeName, Bool.and_eq_true, List.all_eq_true, List.forall_mem_cons]
    refine and_congr_right fun hc => ⟨fun h => ⟨?_, h⟩, And.right⟩
    have hletter : CharClass.isAsciiLetter c = true := hc
    simp [isSchemeChar, CharClass.isAsciiAlphanumeric, hletter]

theorem toNat_lt_of_isSchemeChar {c : Char} (h : isSchemeChar c = true) : c.toNat < 0x80 := by
  simp only [isSchemeChar, CharClass.isAsciiAlphanumeric, CharClass.isAsciiLetter,
    CharClass.isAsciiDigit, Bool.or_eq_true, Bool.and_eq_true, decide_eq_true_eq, Char.le_def,
    UInt32.le_iff_toNat_le] at h
  rcases h with (((((⟨-, h⟩ | ⟨-, h⟩) | ⟨-, h⟩) | rfl) | rfl) | rfl)
  · exact Nat.lt_of_le_of_lt h (by decide)
  · exact Nat.lt_of_le_of_lt h (by decide)
  · exact Nat.lt_of_le_of_lt h (by decide)
  all_goals decide

/-- What holds of every ASCII character of scheme names holds of all characters of them. -/
@[elab_as_elim]
theorem of_isSchemeChar {motive : Char → Prop} {c : Char} (hc : isSchemeChar c = true)
    (h : ∀ n < 0x80, isSchemeChar (Char.ofNat n) = true → motive (Char.ofNat n)) : motive c := by
  have hascii := toNat_lt_of_isSchemeChar hc
  revert hc
  exact of_isAscii hascii h

/-- What holds of every ASCII character that a scheme name may contain holds within scheme names. -/
theorem forall_mem_of_isScheme {scheme : List Char} {P : Char → Prop} (h : IsScheme scheme)
    (hP : ∀ n < 0x80, isSchemeChar (Char.ofNat n) = true → P (Char.ofNat n)) :
    ∀ c ∈ scheme, P c :=
  fun c hc => of_isSchemeChar ((isSchemeName_iff.1 h.1).2 c hc) hP

theorem isSchemeChar_toAsciiLower {c : Char} (h : isSchemeChar c = true) :
    isSchemeChar (CharClass.toAsciiLower c) = true ∧
      CharClass.toAsciiLower (CharClass.toAsciiLower c) = CharClass.toAsciiLower c := by
  refine of_isSchemeChar h ?_
  decide

/-- A scheme name in lower case is a scheme name. -/
theorem isScheme_map_toAsciiLower {name : List Char} (h : isSchemeName name) :
    IsScheme (name.map CharClass.toAsciiLower) := by
  obtain ⟨hfirst, hall⟩ := isSchemeName_iff.1 h
  refine ⟨isSchemeName_iff.2 ⟨?_, List.forall_mem_map.2 fun c hc =>
    (isSchemeChar_toAsciiLower (hall c hc)).1⟩, ?_⟩
  · cases name with
    | nil => cases hfirst
    | cons c rest =>
      have hlower :
          CharClass.isAsciiLetter c → CharClass.isAsciiLetter (CharClass.toAsciiLower c) := by
        refine of_isAscii (toNat_lt_of_isSchemeChar (hall c List.mem_cons_self)) ?_
        decide
      exact hlower hfirst
  · rw [List.map_map]
    exact List.map_congr_left fun c hc => (isSchemeChar_toAsciiLower (hall c hc)).2

theorem isCleanText_of_isScheme {scheme : List Char} (h : IsScheme scheme) :
    IsCleanText scheme :=
  forall_mem_of_isScheme h (by decide)

theorem IsClean.chars (h : u.IsClean) : IsCleanText (u.withFragment none).toChars := by
  have hscheme : IsCleanText (schemePart u.scheme) := by
    cases hs : u.scheme with
    | none => exact nofun
    | some scheme =>
      exact isCleanText_append.2 ⟨isCleanText_of_isScheme (h.scheme scheme hs),
        isCleanText_cons.2 ⟨by decide, nofun⟩⟩
  rw [toChars_eq]
  simp only [withFragment, part, List.append_nil, isCleanText_append]
  exact ⟨hscheme, ⟨h.authority, h.path⟩, h.query⟩

theorem isClean_of_chars (hs : ∀ scheme, u.scheme = some scheme → IsScheme scheme)
    (h : IsCleanText (u.withFragment none).toChars) (hf : IsCleanText (u.fragment.getD [])) :
    u.IsClean := by
  rw [toChars_eq] at h
  simp only [withFragment, part, List.append_nil, isCleanText_append] at h
  exact ⟨hs, h.2.1.1, h.2.1.2, h.2.2, hf⟩

theorem isForbidden_toAsciiLower {c : Char} (h : isForbidden c = false ∧ c ≠ '#') :
    isForbidden (CharClass.toAsciiLower c) = false ∧ CharClass.toAsciiLower c ≠ '#' := by
  unfold CharClass.toAsciiLower
  split
  · rename_i hc
    have hbounds : 65 ≤ c.toNat ∧ c.toNat ≤ 90 := by
      simpa [Char.le_def, UInt32.le_iff_toNat_le] using hc
    have hall : ∀ n < 26,
        isForbidden (Char.ofNat (n + 97)) = false ∧ Char.ofNat (n + 97) ≠ '#' := by
      decide
    have hn := hall (c.toNat - 65) (by omega)
    rwa [show c.toNat - 65 + 97 = c.toNat + 32 by omega] at hn
  · exact h

theorem isCleanText_map_toAsciiLower (h : IsCleanText text) :
    IsCleanText (text.map CharClass.toAsciiLower) := by
  intro c hc
  obtain ⟨d, hd, rfl⟩ := List.mem_map.1 hc
  exact isForbidden_toAsciiLower (h d hd)

theorem isClean_of_parseMain (h : parseMain text = .ok u) (ht : IsCleanText text) :
    u.IsClean := by
  obtain ⟨rest, hs, hchars⟩ := toChars_of_parseMain h
  obtain ⟨-, -, hf, -⟩ := parseMain_eq_ok h
  have hfragment : IsCleanText (u.fragment.getD []) := by
    rw [hf]
    exact nofun
  rcases splitScheme_eq_ok hs with ⟨hnone, rfl⟩ | ⟨name, hsome, hname, rfl⟩
  · refine isClean_of_chars (fun scheme hscheme => ?_) ?_ hfragment
    · rw [hnone] at hscheme
      cases hscheme
    · rw [withFragment_self hf, hchars, hnone]
      exact ht
  · refine isClean_of_chars (fun scheme hscheme => ?_) ?_ hfragment
    · rw [hsome] at hscheme
      cases hscheme
      exact isScheme_map_toAsciiLower hname
    · obtain ⟨hnames, hrest⟩ := isCleanText_append.1 ht
      obtain ⟨hcolon, hrest⟩ := isCleanText_cons.1 hrest
      rw [withFragment_self hf, hchars, hsome, schemePart, isCleanText_append, isCleanText_append]
      exact ⟨⟨isCleanText_map_toAsciiLower hnames, isCleanText_cons.2 ⟨hcolon, nofun⟩⟩, hrest⟩

theorem isCleanText_of_isWritable (h : IsWritable text) (hn : '#' ∉ text) : IsCleanText text :=
  fun _ hc => ⟨isForbidden_of_mem h hc, fun he => hn (he ▸ hc)⟩

theorem IsClean.withFragment (h : u.IsClean) {fragment : Option (List Char)}
    (hf : IsCleanText (fragment.getD [])) : (u.withFragment fragment).IsClean :=
  ⟨h.1, h.2, h.3, h.4, hf⟩

theorem IsClean.bare (h : u.IsClean) : (u.withFragment none).IsClean :=
  ⟨h.1, h.2, h.3, h.4, nofun⟩

theorem isWritable_splitOptional (h : IsWritable text) :
    IsWritable (splitOptional '#' text).1 ∧ IsWritable ((splitOptional '#' text).2.getD []) := by
  obtain ⟨hsplit, -⟩ := splitOptional_spec '#' text
  cases hq : (splitOptional '#' text).2 with
  | none =>
    rw [hq, part, List.append_nil] at hsplit
    rw [hsplit]
    exact ⟨h, trivial⟩
  | some f =>
    rw [hq] at hsplit
    rw [← hsplit] at h
    exact (isWritable_append_cons (by decide) (by decide) (by decide)).1 h

/-- What is read is clean. -/
theorem isClean_of_parse (h : parse text = .ok u) : u.IsClean := by
  obtain ⟨hw, hf, w, hp, rfl⟩ := parse_eq_ok_iff.1 h
  obtain ⟨hmain, hfragment⟩ := isWritable_splitOptional hw
  have hn := (splitOptional_spec '#' text).2
  exact (isClean_of_parseMain hp (isCleanText_of_isWritable hmain hn)).withFragment
    (isCleanText_of_isWritable hfragment hf)

theorem isCleanText_removeDotSegments (h : IsCleanText text) :
    IsCleanText (removeDotSegments text) := by
  intro c hc
  rcases mem_of_mem_removeDotSegments hc with rfl | hc
  · decide
  · exact h c hc

theorem isClean_empty : empty.IsClean :=
  ⟨nofun, nofun, nofun, nofun, nofun⟩

end JsonSchema.Uri
