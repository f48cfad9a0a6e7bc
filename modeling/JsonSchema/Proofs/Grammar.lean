import JsonSchema.Proofs.Interchange
import Mathlib

/-!
# The grammar of URI references

Which texts are URI references, said about the text as a whole: its characters, its escapes, and
the first of the delimiters `:`, `/`, `?` and `#`. The reader cuts off the fragment before it looks
for a scheme, and the query before it looks for an authority; no delimiter is cut off too early.

* `schemeCut?`: the scheme of a text with a fragment.
* `splitScheme_eq`: the scheme that the reader finds once the fragment is cut off.
* `IsReferenceText`: the grammar.
* `parse_reads_grammar`: the grammar is what is read, and what is read is written back.
-/

namespace JsonSchema.Uri

variable {u w : Uri} {text main name rest : List Char} {fragment : Option (List Char)}

/-! ## Schemes -/

/-- Characters that end no part of a reference. -/
def isInner (c : Char) : Bool :=
  c ≠ ':' && c ≠ '/' && c ≠ '?' && c ≠ '#'

/-- The texts around the first delimiter of a text, if that is a colon. -/
def schemeCut? (text : List Char) : Option (List Char × List Char) :=
  match text.dropWhile isInner with
  | ':' :: rest => some (text.takeWhile isInner, rest)
  | _ => none

theorem schemeCut?_eq_some_iff :
    schemeCut? text = some (name, rest) ↔
      text = name ++ ':' :: rest ∧ ∀ c ∈ name, isInner c = true := by
  constructor
  · intro h
    unfold schemeCut? at h
    split at h
    · rename_i more hdrop
      cases h
      refine ⟨?_, fun c => List.mem_takeWhile_imp⟩
      rw [← hdrop, List.takeWhile_append_dropWhile]
    · cases h
  · rintro ⟨rfl, hname⟩
    have hstop : ∀ d ∈ (':' :: rest).head?, isInner d = false := by
      rintro d ⟨⟩
      decide
    unfold schemeCut?
    rw [Text.takeWhile_append hname hstop, Text.dropWhile_append hname hstop]
    rfl

/-- A fragment does not matter for the scheme. -/
theorem schemeCut?_append_part (main : List Char) (fragment : Option (List Char)) :
    schemeCut? (main ++ part ['#'] fragment) =
      (schemeCut? main).map fun (name, rest) => (name, rest ++ part ['#'] fragment) := by
  cases fragment with
  | none => simp [part]
  | some f =>
    have hsharp : isInner '#' = false := by decide
    unfold schemeCut?
    rw [part, List.singleton_append, Text.takeWhile_append_cons hsharp,
      Text.dropWhile_append_cons hsharp]
    rcases main.dropWhile isInner with _ | ⟨c, more⟩
    · rfl
    · by_cases hc : c = ':'
      · subst hc
        rfl
      · simp [hc]

/-- **The scheme of a text without fragment**, as it is read. -/
theorem splitScheme_eq (h : '#' ∉ main) :
    splitScheme main = match schemeCut? main with
      | none => .ok (none, main)
      | some (name, rest) =>
        if isSchemeName name then .ok (some (name.map CharClass.toAsciiLower), rest)
        else .error (.malformedScheme name) := by
  cases hc : schemeCut? main with
  | some cut =>
    obtain ⟨name, rest⟩ := cut
    obtain ⟨rfl, hname⟩ := schemeCut?_eq_some_iff.1 hc
    have hcolon : ':' ∉ name := fun hm => absurd (hname _ hm) (by decide)
    have hplain : (name.any fun c => c = '/' || c = '?') = false := by
      refine List.any_eq_false.2 fun c hm => ?_
      have := hname c hm
      simp only [isInner, Bool.and_eq_true, decide_eq_true_eq] at this
      simp [this]
    unfold splitScheme
    simp only [Text.cut?_append hcolon, hplain, Bool.false_eq_true, if_false]
  | none =>
    refine splitScheme_eq_none_iff.2 ⟨fun hm => ?_, rfl⟩
    -- A colon in the first piece would be the first delimiter.
    obtain ⟨before, after, heq, hbefore⟩ := List.eq_append_cons_of_mem hm
    have hmain : main = before ++ ':' :: (after ++ main.dropWhile inFirstPiece) := by
      conv_lhs => rw [← List.takeWhile_append_dropWhile (p := inFirstPiece) (l := main), heq]
      simp
    have hinner : ∀ c ∈ before, isInner c = true := by
      intro c hc
      have hpiece : inFirstPiece c = true :=
        List.mem_takeWhile_imp (heq ▸ List.mem_append_left _ hc)
      have hcolon : c ≠ ':' := fun he => hbefore (he ▸ hc)
      have hsharp : c ≠ '#' := fun he => h (he ▸ hmain ▸ List.mem_append_left _ hc)
      simp only [inFirstPiece, Bool.and_eq_true, decide_eq_true_eq] at hpiece
      simp [isInner, hpiece, hcolon, hsharp]
    rw [schemeCut?_eq_some_iff.2 ⟨hmain, hinner⟩] at hc
    cases hc

/-- What follows the scheme. -/
def afterScheme (text : List Char) : List Char :=
  match schemeCut? text with
  | none => text
  | some (_, rest) => rest

/-- A text with its scheme in lower case. -/
def lowerScheme (text : List Char) : List Char :=
  match schemeCut? text with
  | none => text
  | some (name, rest) => name.map CharClass.toAsciiLower ++ ':' :: rest

/-- What stands between the scheme and the first `?` or `#`. -/
def hierarchyText (text : List Char) : List Char :=
  (afterScheme text).takeWhile fun c => c ≠ '?' && c ≠ '#'

theorem afterScheme_append_part (main : List Char) (fragment : Option (List Char)) :
    afterScheme (main ++ part ['#'] fragment) = afterScheme main ++ part ['#'] fragment := by
  unfold afterScheme
  rw [schemeCut?_append_part]
  cases schemeCut? main <;> rfl

theorem sharp_notMem_afterScheme (h : '#' ∉ main) : '#' ∉ afterScheme main := by
  unfold afterScheme
  split
  · exact h
  · rename_i hc
    obtain ⟨rfl, -⟩ := schemeCut?_eq_some_iff.1 hc
    exact fun hm => h (List.mem_append_right _ (List.mem_cons_of_mem _ hm))

theorem hierarchyText_append_part (h : '#' ∉ main) (fragment : Option (List Char)) :
    hierarchyText (main ++ part ['#'] fragment) = (splitOptional '?' (afterScheme main)).1 := by
  have hsharp := sharp_notMem_afterScheme h
  rw [hierarchyText, afterScheme_append_part]
  obtain ⟨hsplit, hquestion⟩ := splitOptional_spec '?' (afterScheme main)
  generalize splitOptional '?' (afterScheme main) = cut at *
  obtain ⟨front, query⟩ := cut
  rw [← hsplit] at hsharp ⊢
  rw [List.append_assoc]
  refine Text.takeWhile_append (fun c hc => ?_) (fun c hc => ?_)
  · have hq : c ≠ '?' := fun he => hquestion (he ▸ hc)
    have hs : c ≠ '#' := fun he => hsharp (List.mem_append_left _ (he ▸ hc))
    simp [hq, hs]
  · cases query with
    | some q => cases hc; decide
    | none =>
      cases fragment with
      | some f => cases hc; decide
      | none => cases hc

/-! ## The grammar -/

/-- A text without square brackets. -/
def IsUnbracketed (text : List Char) : Prop :=
  ∀ c ∈ text, c ≠ '[' ∧ c ≠ ']'

/-- The grammar of URI references. -/
structure IsReferenceText (text : List Char) : Prop where
  characters : ∀ c ∈ text, CharClass.isControl c = false ∧ CharClass.isBlank c = false ∧
    c ∉ ['"', '<', '>', '\\', '^', '\x60', '\x7b', '|', '\x7d']
  escapes : ∀ before after, text = before ++ '%' :: after →
    ∃ a b rest, after = a :: b :: rest ∧ CharClass.isHexDigit a ∧ CharClass.isHexDigit b
  sharp : text.count '#' ≤ 1
  scheme : ∀ name rest, schemeCut? text = some (name, rest) →
    ∃ first more, name = first :: more ∧ CharClass.isAsciiLetter first ∧
      ∀ c ∈ more, CharClass.isAsciiAlphanumeric c ∨ c = '+' ∨ c = '-' ∨ c = '.'
  brackets : ['/', '/'] <+: hierarchyText text ∨ IsUnbracketed (hierarchyText text)

theorem isForbidden_eq_false_iff {c : Char} : isForbidden c = false ↔
    CharClass.isControl c = false ∧ CharClass.isBlank c = false ∧
      c ∉ ['"', '<', '>', '\\', '^', '\x60', '\x7b', '|', '\x7d'] := by
  rw [isForbidden, Bool.or_eq_false_iff, Bool.or_eq_false_iff, and_assoc, ← List.contains_iff_mem,
    Bool.not_eq_true]

theorem startsWithTwoHex_iff : startsWithTwoHex text = true ↔
    ∃ a b rest, text = a :: b :: rest ∧ CharClass.isHexDigit a ∧ CharClass.isHexDigit b := by
  rcases text with _ | ⟨a, _ | ⟨b, rest⟩⟩ <;> simp [startsWithTwoHex]

theorem isWritable_iff : IsWritable text ↔ (∀ c ∈ text, isForbidden c = false) ∧
    ∀ before after, text = before ++ '%' :: after → startsWithTwoHex after = true := by
  induction text with
  | nil => simp [IsWritable]
  | cons c rest ih =>
    rw [IsWritable, ih, List.forall_mem_cons]
    constructor
    · rintro ⟨hc, hescape, hrest, hescapes⟩
      refine ⟨⟨hc, hrest⟩, fun before after h => ?_⟩
      cases before with
      | nil =>
        obtain ⟨rfl, rfl⟩ := List.cons.inj h
        exact hescape rfl
      | cons d more => exact hescapes more after (List.cons.inj h).2
    · rintro ⟨⟨hc, hrest⟩, hescapes⟩
      exact ⟨hc, fun he => hescapes [] rest (he ▸ rfl), hrest, fun before after h =>
        hescapes (c :: before) after (h ▸ rfl)⟩

theorem isSchemeName_iff_letter : isSchemeName name = true ↔
    ∃ first more, name = first :: more ∧ CharClass.isAsciiLetter first ∧
      ∀ c ∈ more, CharClass.isAsciiAlphanumeric c ∨ c = '+' ∨ c = '-' ∨ c = '.' := by
  cases name with
  | nil => simp [isSchemeName]
  | cons c more => simp [isSchemeName, or_assoc]

/-- The grammar, as the reader checks it. -/
theorem isReferenceText_iff : IsReferenceText text ↔ IsWritable text ∧ text.count '#' ≤ 1 ∧
    (∀ name rest, schemeCut? text = some (name, rest) → isSchemeName name = true) ∧
      (['/', '/'] <+: hierarchyText text ∨ IsUnbracketed (hierarchyText text)) := by
  simp only [isWritable_iff, isForbidden_eq_false_iff, startsWithTwoHex_iff,
    isSchemeName_iff_letter]
  constructor
  · rintro ⟨hcharacters, hescapes, hsharp, hscheme, hbrackets⟩
    exact ⟨⟨hcharacters, hescapes⟩, hsharp, hscheme, hbrackets⟩
  · rintro ⟨⟨hcharacters, hescapes⟩, hsharp, hscheme, hbrackets⟩
    exact ⟨hcharacters, hescapes, hsharp, hscheme, hbrackets⟩

theorem exists_ok_splitScheme_iff (h : '#' ∉ main) :
    (∃ scheme, splitScheme main = .ok (scheme, rest)) ↔
      (∀ name more, schemeCut? main = some (name, more) → isSchemeName name = true) ∧
        rest = afterScheme main := by
  rw [splitScheme_eq h, afterScheme]
  cases schemeCut? main with
  | none =>
    constructor
    · rintro ⟨scheme, ⟨⟩⟩
      exact ⟨nofun, rfl⟩
    · rintro ⟨-, rfl⟩
      exact ⟨none, rfl⟩
  | some cut =>
    obtain ⟨name, more⟩ := cut
    cases hn : isSchemeName name with
    | false => simp [hn]
    | true =>
      constructor
      · rintro ⟨scheme, he⟩
        simp only [hn, if_true, Except.ok.injEq, Prod.mk.injEq] at he
        refine ⟨?_, he.2.symm⟩
        rintro _ _ ⟨⟩
        exact hn
      · rintro ⟨-, rfl⟩
        exact ⟨some (name.map CharClass.toAsciiLower), by simp [hn]⟩

/-- What is read behind the scheme: only a bracket without authority is refused. -/
theorem exists_ok_parseMain_iff (h : '#' ∉ main) :
    (∃ w, parseMain main = .ok w) ↔
      (∀ name rest, schemeCut? main = some (name, rest) → isSchemeName name = true) ∧
        (['/', '/'] <+: (splitOptional '?' (afterScheme main)).1 ∨
          IsUnbracketed (splitOptional '?' (afterScheme main)).1) := by
  have hspec := splitAuthority_spec (splitOptional '?' (afterScheme main)).1
  constructor
  · rintro ⟨w, hw⟩
    obtain ⟨rest, hscheme, -, -, hauthority⟩ := parseMain_eq_ok hw
    obtain ⟨hname, rfl⟩ := (exists_ok_splitScheme_iff h).1 ⟨_, hscheme⟩
    refine ⟨hname, or_iff_not_imp_left.2 fun hslashes => ?_⟩
    have ha : w.authority = none := by
      rw [← splitAuthority_eq_none_iff, hauthority] at hslashes
      exact hslashes
    rw [hauthority, ha, part, List.nil_append] at hspec
    rw [← hspec]
    exact brackets_of_parseMain hw ha
  · rintro ⟨hname, hbrackets⟩
    obtain ⟨scheme, hscheme⟩ := (exists_ok_splitScheme_iff h).2 ⟨hname, rfl⟩
    unfold parseMain
    rw [hscheme]
    simp only [bind, Except.bind]
    split
    · rename_i ha
      rw [Option.isNone_iff_eq_none] at ha
      rw [ha, part, List.nil_append] at hspec
      have hnone : findIllegal (fun c => c = '[' || c = ']') 0
          (splitAuthority (splitOptional '?' (afterScheme main)).1).2 = .ok () := by
        have hplain := hbrackets.resolve_left (splitAuthority_eq_none_iff.1 ha)
        rw [hspec]
        exact findIllegal_eq_ok_iff.2 (by simpa [IsUnbracketed] using hplain)
      rw [hnone]
      exact ⟨_, rfl⟩
    · exact ⟨_, rfl⟩

theorem exists_ok_parse_iff : (∃ u, parse text = .ok u) ↔ IsReferenceText text := by
  have hread : (∃ u, parse text = .ok u) ↔ IsWritable text ∧
      '#' ∉ (splitOptional '#' text).2.getD [] ∧
        ∃ w, parseMain (splitOptional '#' text).1 = .ok w := by
    simp only [parse_eq_ok_iff]
    constructor
    · rintro ⟨u, hw, hsharp, w, hm, -⟩
      exact ⟨hw, hsharp, w, hm⟩
    · rintro ⟨hw, hsharp, w, hm⟩
      exact ⟨_, hw, hsharp, w, hm, rfl⟩
  obtain ⟨hsplit, hmain⟩ := splitOptional_spec '#' text
  rw [hread, exists_ok_parseMain_iff hmain]
  generalize splitOptional '#' text = cut at hsplit hmain ⊢
  obtain ⟨main, fragment⟩ := cut
  subst hsplit
  have hcount : '#' ∉ fragment.getD [] ↔ (main ++ part ['#'] fragment).count '#' ≤ 1 := by
    rw [List.count_append, List.count_eq_zero_of_not_mem hmain]
    cases fragment with
    | none => simp [part]
    | some f => simp [part, List.count_eq_zero]
  have hnames : (∀ name rest, schemeCut? main = some (name, rest) → isSchemeName name = true) ↔
      ∀ name rest, schemeCut? (main ++ part ['#'] fragment) = some (name, rest) →
        isSchemeName name = true := by
    rw [schemeCut?_append_part]
    rcases schemeCut? main with _ | ⟨name, more⟩ <;> simp
  rw [hcount, hnames, ← hierarchyText_append_part hmain fragment, isReferenceText_iff]

/-- Authority and path of what is read are the text between its scheme and the first `?` or
`#`. -/
theorem hierarchy_of_parse (h : parse text = .ok u) : u.hierarchy = hierarchyText text := by
  obtain ⟨-, -, w, hw, rfl⟩ := parse_eq_ok_iff.1 h
  obtain ⟨hsplit, hmain⟩ := splitOptional_spec '#' text
  generalize splitOptional '#' text = cut at hsplit hmain hw ⊢
  obtain ⟨main, fragment⟩ := cut
  subst hsplit
  obtain ⟨rest, hscheme, -, -, hauthority⟩ := parseMain_eq_ok hw
  obtain ⟨-, rfl⟩ := (exists_ok_splitScheme_iff hmain).1 ⟨_, hscheme⟩
  have hspec := splitAuthority_spec (splitOptional '?' (afterScheme main)).1
  rw [hauthority] at hspec
  rw [hierarchyText_append_part hmain]
  exact hspec

/-! ## Writing -/

/-- What is read from a text is written as the text, with the scheme in lower case. -/
theorem toChars_cases_of_parse (h : parse text = .ok u) :
    (schemeCut? text = none ∧ u.toChars = text) ∨
      ∃ name rest, schemeCut? text = some (name, rest) ∧ u.scheme.isSome ∧
        u.toChars = name.map CharClass.toAsciiLower ++ ':' :: rest := by
  obtain ⟨-, -, w, hw, rfl⟩ := parse_eq_ok_iff.1 h
  obtain ⟨hsplit, hmain⟩ := splitOptional_spec '#' text
  generalize splitOptional '#' text = cut at hsplit hmain hw ⊢
  obtain ⟨main, fragment⟩ := cut
  subst hsplit
  obtain ⟨-, -, hbare, -⟩ := parseMain_eq_ok hw
  obtain ⟨rest, hscheme, hchars⟩ := toChars_of_parseMain hw
  rw [toChars_withFragment, withFragment_self hbare, hchars, schemeCut?_append_part]
  rw [splitScheme_eq hmain] at hscheme
  cases hc : schemeCut? main with
  | none =>
    simp only [hc, Except.ok.injEq, Prod.mk.injEq] at hscheme
    obtain ⟨hnone, rfl⟩ := hscheme
    refine .inl ⟨rfl, ?_⟩
    rw [← hnone]
    rfl
  | some cut =>
    obtain ⟨name, more⟩ := cut
    simp only [hc] at hscheme
    split at hscheme
    · simp only [Except.ok.injEq, Prod.mk.injEq] at hscheme
      obtain ⟨hsome, rfl⟩ := hscheme
      refine .inr ⟨name, more ++ part ['#'] fragment, rfl, ?_, ?_⟩
      · rw [withFragment, ← hsome]
        rfl
      · simp [← hsome, schemePart]
    · cases hscheme

theorem toChars_of_parse (h : parse text = .ok u) : u.toChars = lowerScheme text := by
  unfold lowerScheme
  rcases toChars_cases_of_parse h with ⟨hc, hchars⟩ | ⟨name, rest, hc, -, hchars⟩
  · rw [hc, hchars]
  · rw [hc, hchars]

theorem parse_toChars_self (h : parse text = .ok u) : parse u.toChars = .ok u := by
  rcases toChars_cases_of_parse h with ⟨-, hchars⟩ | ⟨name, rest, -, hs, -⟩
  · rwa [hchars]
  · have hclean := isClean_of_parse h
    obtain ⟨-, hwritable⟩ := fragment_of_parse h
    have hsharp : '#' ∉ u.fragment.getD [] := fun hm => (hclean.fragment _ hm).2 rfl
    have hfront : '#' ∉ (u.withFragment none).toChars := fun hm => (hclean.chars _ hm).2 rfl
    have hself : u.withFragment u.fragment = u := rfl
    -- The fragment is read apart from the rest, which is read back.
    have happend := toOption_parse_append_part hfront hwritable hsharp
    rw [← toChars_withFragment, hself, toOption_eq_some.2 (parse_toChars_of_parse h hs)] at happend
    exact toOption_eq_some.1 happend

/-- **The reader of URI references accepts its grammar, and writing undoes reading.** A text is
read exactly if it keeps to the grammar; what is read is written as the text, with the scheme in
lower case, and read back. -/
theorem parse_reads_grammar (text : List Char) :
    ((∃ u, parse text = .ok u) ↔ IsReferenceText text) ∧
      ∀ u, parse text = .ok u → u.toChars = lowerScheme text ∧ parse u.toChars = .ok u :=
  ⟨exists_ok_parse_iff, fun _ h => ⟨toChars_of_parse h, parse_toChars_self h⟩⟩

/-- Delimiters in the wrong order: brackets in the query, a colon and a question mark in the
fragment. -/
theorem parse_reads_grammar_bracketed :
    IsReferenceText "HTTP://[::1]/%7e?[:/]#a:b?/".toList ∧
      ∃ u, parse "HTTP://[::1]/%7e?[:/]#a:b?/".toList = .ok u ∧
        u.toChars = "http://[::1]/%7e?[:/]#a:b?/".toList ∧ parse u.toChars = .ok u := by
  obtain ⟨hgrammar, hwritten⟩ := parse_reads_grammar "HTTP://[::1]/%7e?[:/]#a:b?/".toList
  have hread : ∃ u, parse "HTTP://[::1]/%7e?[:/]#a:b?/".toList = .ok u := ⟨_, by cbv⟩
  obtain ⟨u, hu⟩ := hread
  have hlower : lowerScheme "HTTP://[::1]/%7e?[:/]#a:b?/".toList =
      "http://[::1]/%7e?[:/]#a:b?/".toList := by cbv
  exact ⟨hgrammar.1 ⟨u, hu⟩, u, hu, hlower ▸ hwritten u hu⟩

end JsonSchema.Uri
