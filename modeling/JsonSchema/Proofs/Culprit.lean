import JsonSchema.Proofs.Grammar
import Mathlib

/-!
# Where errors of URI references point

A text is refused in one of four passes: over its characters, over its fragment, over its scheme and
over its path. The first two count the bytes from the start of the text. The last one sees the path
alone and counts from there; so the place that it reports is right without a scheme, and otherwise
too small by the scheme and its colon.

* `Text.GoesOn`: what stands at a byte of a text.
* `checkCharacters_eq_error`, `findIllegal_eq_error`: where a pass stops.
* `reported_of_parse`: what a text that is refused has at the place of the error.
* `parse_error_points`: which errors point at their character.
-/

namespace JsonSchema

namespace Text

variable {text front rest rest' : List Char} {place : Nat} {c : Char}

/-! ## Places in bytes -/

theorem length_encode_cons (c : Char) (cs : List Char) :
    (Utf8.encode (c :: cs)).length = c.utf8Size + (Utf8.encode cs).length := by
  rw [Utf8.encode, List.flatMap_cons, List.length_append, String.length_utf8EncodeChar,
    ← Utf8.encode]

theorem length_encode_append (cs ds : List Char) : (Utf8.encode (cs ++ ds)).length =
    (Utf8.encode cs).length + (Utf8.encode ds).length := by
  rw [Utf8.encode, List.flatMap_append, List.length_append, ← Utf8.encode, ← Utf8.encode]

theorem byteLength_eq (cs : List Char) : byteLength cs = (Utf8.encode cs).length := by
  have hfrom (n : Nat) : cs.foldl (fun m c => m + c.utf8Size) n = n + (Utf8.encode cs).length := by
    induction cs generalizing n with
    | nil => rfl
    | cons c more ih => rw [List.foldl_cons, ih, length_encode_cons, Nat.add_assoc]
  exact (hfrom 0).trans (Nat.zero_add _)

/-- A text goes on with `rest` from a byte of its UTF-8 form on. -/
def GoesOn (text : List Char) (place : Nat) (rest : List Char) : Prop :=
  ∃ before, text = before ++ rest ∧ (Utf8.encode before).length = place

namespace GoesOn

theorem start (text : List Char) : GoesOn text 0 text :=
  ⟨[], rfl, rfl⟩

theorem append (h : GoesOn text place rest) (front : List Char) :
    GoesOn (front ++ text) ((Utf8.encode front).length + place) rest := by
  obtain ⟨before, rfl, rfl⟩ := h
  exact ⟨front ++ before, (List.append_assoc ..).symm, length_encode_append front before⟩

/-- What stands at a byte of the front of a text is a character of the front. -/
theorem mem_front (h : GoesOn (front ++ rest) place (c :: rest'))
    (hlt : place < (Utf8.encode front).length) : c ∈ front := by
  obtain ⟨before, htext, rfl⟩ := h
  induction front generalizing before with
  | nil => exact absurd hlt (Nat.not_lt_zero _)
  | cons d more ih =>
    cases before with
    | nil =>
      obtain ⟨rfl, -⟩ := List.cons.inj htext
      exact List.mem_cons_self
    | cons b before =>
      obtain ⟨rfl, hmore⟩ := List.cons.inj htext
      rw [length_encode_cons, length_encode_cons, Nat.add_lt_add_iff_left] at hlt
      exact List.mem_cons_of_mem _ (ih before hmore hlt)

end GoesOn

end Text

namespace Uri

open Text (GoesOn)

variable {text main rest : List Char} {e : ParseError} {c : Char} {place start : Nat}

/-! ## Passes -/

/-- Where a pass over the characters stops: at a forbidden character or a broken escape. -/
theorem checkCharacters_eq_error (h : checkCharacters start text = .error e) :
    ∃ c after place, GoesOn text place (c :: after) ∧
      (isForbidden c = true ∧ e = .illegalCharacter c (start + place) ∨
        c = '%' ∧ startsWithTwoHex after = false ∧ e = .malformedEscape (start + place)) := by
  induction text generalizing start with
  | nil => cases h
  | cons d rest ih =>
    unfold checkCharacters at h
    split at h
    · rename_i hd
      cases h
      exact ⟨d, rest, 0, .start _, .inl ⟨hd, rfl⟩⟩
    split at h
    · rename_i hescape
      cases h
      exact ⟨d, rest, 0, .start _, .inr ⟨hescape.1, hescape.2, rfl⟩⟩
    · obtain ⟨c, after, place, hgoes, hreport⟩ := ih h
      refine ⟨c, after, _, hgoes.append [d], ?_⟩
      rwa [Text.length_encode_cons, ← Nat.add_assoc]

/-- Where a search for the characters of a class stops: at the first of them. -/
theorem findIllegal_eq_error {illegal : Char → Bool}
    (h : findIllegal illegal start text = .error e) :
    ∃ before c after, text = before ++ c :: after ∧ illegal c = true ∧
      (∀ d ∈ before, illegal d = false) ∧
        e = .illegalCharacter c (start + (Utf8.encode before).length) := by
  induction text generalizing start with
  | nil => cases h
  | cons d rest ih =>
    unfold findIllegal at h
    split at h
    · rename_i hd
      cases h
      exact ⟨[], d, rest, rfl, hd, List.forall_mem_nil _, rfl⟩
    · rename_i hd
      obtain ⟨before, c, after, rfl, hc, hbefore, rfl⟩ := ih h
      refine ⟨d :: before, c, after, rfl, hc, ?_, ?_⟩
      · exact List.forall_mem_cons.2 ⟨Bool.eq_false_of_not_eq_true hd, hbefore⟩
      · rw [Text.length_encode_cons, Nat.add_assoc]

/-- A square bracket. -/
def isBracket (c : Char) : Bool :=
  c = '[' || c = ']'

theorem isBracket_iff : isBracket c = true ↔ c = '[' ∨ c = ']' := by
  simp [isBracket]

/-- What is searched for brackets follows the scheme, which is a name. -/
theorem eq_afterScheme_of_splitScheme {scheme : Option (List Char)} (hsharp : '#' ∉ main)
    (h : splitScheme main = .ok (scheme, rest)) : rest = afterScheme main ∧
      ∀ name more, schemeCut? main = some (name, more) → isSchemeName name = true := by
  rw [splitScheme_eq hsharp] at h
  unfold afterScheme
  cases hcut : schemeCut? main with
  | none =>
    rw [hcut] at h
    cases h
    exact ⟨rfl, nofun⟩
  | some cut =>
    obtain ⟨name, more⟩ := cut
    rw [hcut] at h
    simp only at h
    split at h
    · rename_i hname
      cases h
      refine ⟨rfl, ?_⟩
      rintro _ _ ⟨⟩
      exact hname
    · cases h

/-- Why a text without fragment is refused: its scheme is no name, or a path that follows no
authority has a bracket, the first of which is reported by its place behind the scheme. -/
theorem parseMain_eq_error (hsharp : '#' ∉ main) (h : parseMain main = .error e) :
    (∃ name, e = .malformedScheme name) ∨ ∃ before c after,
      afterScheme main = before ++ c :: after ∧ isBracket c = true ∧
        (∀ d ∈ before, isBracket d = false) ∧
        (∀ name rest, schemeCut? main = some (name, rest) → isSchemeName name = true) ∧
        e = .illegalCharacter c (Utf8.encode before).length := by
  rcases bind_eq_error_iff.1 h with hscheme | ⟨⟨scheme, rest⟩, hscheme, h⟩
  · refine .inl ?_
    rw [splitScheme_eq hsharp] at hscheme
    split at hscheme
    · cases hscheme
    split at hscheme
    · cases hscheme
    · cases hscheme
      exact ⟨_, rfl⟩
  obtain ⟨rfl, hname⟩ := eq_afterScheme_of_splitScheme hsharp hscheme
  have hquery := (splitOptional_spec '?' (afterScheme main)).1
  have hpath := splitAuthority_spec (splitOptional '?' (afterScheme main)).1
  simp only at h
  split at h
  · rename_i hnone
    rw [Option.isNone_iff_eq_none.1 hnone] at hpath
    rcases bind_eq_error_iff.1 h with h | ⟨_, -, h⟩
    · have hbrackets : findIllegal isBracket 0
          (splitAuthority (splitOptional '?' (afterScheme main)).1).2 = .error e := h
      obtain ⟨before, c, after, hfound, hc, hbefore, rfl⟩ := findIllegal_eq_error hbrackets
      refine .inr ⟨before, c, after ++ part ['?'] (splitOptional '?' (afterScheme main)).2, ?_, hc,
        hbefore, hname, by rw [Nat.zero_add]⟩
      conv_lhs => rw [← hquery, ← hpath, hfound]
      simp [part]
    · cases h
  · cases h

/-! ## Errors -/

/-- What the passes report of a text, and where in the text. -/
inductive Reported (text : List Char) : ParseError → Prop
  | forbidden {c : Char} {after : List Char} {place : Nat} (hc : isBracket c = false)
      (h : GoesOn text place (c :: after)) : Reported text (.illegalCharacter c place)
  | escape {after : List Char} {place : Nat} (hhex : startsWithTwoHex after = false)
      (h : GoesOn text place ('%' :: after)) : Reported text (.malformedEscape place)
  | scheme (name : List Char) : Reported text (.malformedScheme name)
  | bracket {c : Char} {before after : List Char} (hc : isBracket c = true)
      (hbefore : ∀ d ∈ before, isBracket d = false)
      (hname : ∀ name rest, schemeCut? text = some (name, rest) → isSchemeName name = true)
      (h : afterScheme text = before ++ c :: after) :
      Reported text (.illegalCharacter c (Utf8.encode before).length)

/-- The fragment of a text starts behind the main part and its `#`. -/
theorem goesOn_of_fragment {fragment before after : List Char}
    (h : fragment = before ++ after) : GoesOn (main ++ '#' :: fragment)
      (Text.byteLength main + 1 + (Utf8.encode before).length) after := by
  have hgoes := ((Text.GoesOn.start after).append before).append (main ++ ['#'])
  rw [Text.length_encode_append, Nat.add_zero, ← Text.byteLength_eq main, List.append_assoc, ← h]
    at hgoes
  exact hgoes

/-- **What is reported of a text that is refused.** -/
theorem reported_of_parse (h : parse text = .error e) : Reported text e := by
  obtain ⟨htext, hsharp⟩ := splitOptional_spec '#' text
  rw [parse_eq] at h
  generalize splitOptional '#' text = cut at htext hsharp h
  obtain ⟨main, fragment⟩ := cut
  simp only at htext hsharp h
  rcases bind_eq_error_iff.1 h with h | ⟨_, -, h⟩
  · obtain ⟨c, after, place, hgoes, hreport⟩ := checkCharacters_eq_error h
    rw [Nat.zero_add] at hreport
    rcases hreport with ⟨hc, rfl⟩ | ⟨rfl, hhex, rfl⟩
    · refine .forbidden (Bool.eq_false_iff.2 fun hbracket => ?_) hgoes
      rcases isBracket_iff.1 hbracket with rfl | rfl <;> exact absurd hc (by decide)
    · exact .escape hhex hgoes
  rcases bind_eq_error_iff.1 h with h | ⟨_, -, h⟩
  · obtain ⟨before, c, after, hfound, hc, -, rfl⟩ := findIllegal_eq_error h
    obtain rfl : c = '#' := of_decide_eq_true hc
    cases fragment with
    | none => exact absurd hfound.symm (by simp)
    | some fragment =>
      rw [← htext]
      exact .forbidden (by decide) (goesOn_of_fragment hfound)
  rcases bind_eq_error_iff.1 h with h | ⟨_, -, h⟩
  · rcases parseMain_eq_error hsharp h with ⟨name, rfl⟩ |
      ⟨before, c, after, hfound, hc, hbefore, hname, rfl⟩
    · exact .scheme name
    · have hrest : afterScheme text = before ++ c :: (after ++ part ['#'] fragment) := by
        rw [← htext, afterScheme_append_part, hfound, List.append_assoc, List.cons_append]
      refine .bracket hc hbefore (fun name rest hcut => ?_) hrest
      · rw [← htext, schemeCut?_append_part] at hcut
        obtain ⟨_, hmain, he⟩ := Option.map_eq_some_iff.1 hcut
        cases he
        exact hname _ _ hmain
  · cases h

/-- Behind a scheme, no bracket stands where the first bracket is reported. -/
theorem not_goesOn_of_schemeCut? {name before after after' : List Char} (hc : isBracket c = true)
    (hbefore : ∀ d ∈ before, isBracket d = false)
    (hcut : schemeCut? text = some (name, before ++ c :: after))
    (hname : isSchemeName name = true) :
    ¬GoesOn text (Utf8.encode before).length (c :: after') := by
  intro hgoes
  obtain ⟨rfl, -⟩ := schemeCut?_eq_some_iff.1 hcut
  have hfront : ∀ d ∈ name ++ ':' :: before, isBracket d = false := by
    have hscheme : ∀ d ∈ name, isBracket d = false := fun d hd => by
      refine of_isSchemeChar ((isSchemeName_iff.1 hname).2 d hd) ?_
      decide
    exact List.forall_mem_append.2 ⟨hscheme, List.forall_mem_cons.2 ⟨by decide, hbefore⟩⟩
  have hsplit : name ++ ':' :: (before ++ c :: after) =
      (name ++ ':' :: before) ++ c :: after := by
    simp
  rw [hsplit] at hgoes
  have hmem := hgoes.mem_front (by
    rw [Text.length_encode_append, Text.length_encode_cons]
    have := Char.utf8Size_pos ':'
    omega)
  rw [hfront c hmem] at hc
  cases hc

/-- **Which errors point at their character.** A malformed escape is reported where a `%` stands
that no two hexadecimal digits follow. An illegal character is reported where it stands, unless it
is a bracket and there is a scheme; a bracket is reported by its place in what follows the
scheme. -/
theorem parse_error_points (text : List Char) :
    (∀ place, parse text = .error (.malformedEscape place) →
      ∃ after, GoesOn text place ('%' :: after) ∧
        ¬∃ a b rest, after = a :: b :: rest ∧ CharClass.isHexDigit a ∧ CharClass.isHexDigit b) ∧
    ∀ c place, parse text = .error (.illegalCharacter c place) →
      ((∃ after, GoesOn text place (c :: after)) ↔
        ¬((c = '[' ∨ c = ']') ∧ ∃ name rest, schemeCut? text = some (name, rest))) ∧
      (c = '[' ∨ c = ']' → ∃ after, GoesOn (afterScheme text) place (c :: after)) := by
  refine ⟨fun place h => ?_, fun c place h => ?_⟩
  · cases reported_of_parse h with
    | escape hhex hgoes =>
      refine ⟨_, hgoes, fun htwo => ?_⟩
      rw [startsWithTwoHex_iff.2 htwo] at hhex
      cases hhex
  · rw [← isBracket_iff]
    cases reported_of_parse h with
    | forbidden hc hgoes =>
      rw [hc]
      exact ⟨iff_of_true ⟨_, hgoes⟩ nofun, nofun⟩
    | @bracket _ before after hc hbefore hname hfound =>
      have hrest : GoesOn (afterScheme text) (Utf8.encode before).length (c :: after) :=
        ⟨before, hfound, rfl⟩
      refine ⟨?_, fun _ => ⟨_, hrest⟩⟩
      cases hcut : schemeCut? text with
      | none =>
        rw [afterScheme, hcut] at hrest
        exact iff_of_true ⟨_, hrest⟩ (by rintro ⟨-, _, _, ⟨⟩⟩)
      | some cut =>
        obtain ⟨name, rest⟩ := cut
        obtain rfl : rest = before ++ c :: after := by
          rw [← hfound, afterScheme, hcut]
        refine iff_of_false ?_ (not_not_intro ⟨hc, _, _, rfl⟩)
        rintro ⟨after', hgoes⟩
        exact not_goesOn_of_schemeCut? hc hbefore hcut (hname _ _ hcut) hgoes

/-- Errors behind a character of two bytes: a broken escape, and a bracket without scheme. -/
theorem parse_error_points_multibyte :
    (parse "é%4".toList = .error (.malformedEscape 2) ∧
      ∃ after, GoesOn "é%4".toList 2 ('%' :: after) ∧
        ¬∃ a b rest, after = a :: b :: rest ∧ CharClass.isHexDigit a ∧ CharClass.isHexDigit b) ∧
    parse "é[0]?x#y".toList = .error (.illegalCharacter '[' 2) ∧
      ∃ after, GoesOn "é[0]?x#y".toList 2 ('[' :: after) := by
  have hescape : parse "é%4".toList = .error (.malformedEscape 2) := by cbv
  have hbracket : parse "é[0]?x#y".toList = .error (.illegalCharacter '[' 2) := by cbv
  have hscheme : schemeCut? "é[0]?x#y".toList = none := by cbv
  refine ⟨⟨hescape, (parse_error_points _).1 2 hescape⟩, hbracket, ?_⟩
  refine ((parse_error_points _).2 '[' 2 hbracket).1.2 ?_
  rintro ⟨-, name, rest, hcut⟩
  rw [hscheme] at hcut
  cases hcut

/-- **An error that points elsewhere**: with the scheme `mem`, the bracket at byte 8 is reported at
byte 4, where there is a slash. -/
theorem not_goesOn_bracketed :
    parse "mem:/s/a[0]".toList = .error (.illegalCharacter '[' 4) ∧
      ¬(∃ after, GoesOn "mem:/s/a[0]".toList 4 ('[' :: after)) ∧
      GoesOn "mem:/s/a[0]".toList 8 "[0]".toList := by
  have hcut : schemeCut? "mem:/s/a[0]".toList =
      some (['m', 'e', 'm'], ['/', 's', '/', 'a'] ++ '[' :: "0]".toList) := by cbv
  have hbefore : ∀ d ∈ ['/', 's', '/', 'a'], isBracket d = false := by simp [isBracket]
  refine ⟨by cbv, ?_, "mem:/s/a".toList, by cbv, by cbv⟩
  rintro ⟨after, hgoes⟩
  exact not_goesOn_of_schemeCut? (by decide) hbefore hcut (by decide) hgoes

end Uri

end JsonSchema
