import JsonSchema.Proofs.Utf8
import JsonSchema.Text.Percent
import Mathlib

/-!
# Percent escapes are read back

* `decode_encode`: a text is read back from its escaped form, if the escape sign is escaped.
* `mem_encode`: what an escaped form holds.
* `encode_of_stays`: a text without characters to escape is its own escaped form.
-/

namespace JsonSchema.Percent

variable {needsEscape : Char → Bool}

theorem hexDigit?_hexUpper : ∀ n < 16, CharClass.hexDigit? (hexUpper n) = some n := by
  decide

theorem decodeBytes_escapeByte_append (b : UInt8) (rest : List Char) :
    decodeBytes (escapeByte b ++ rest) = b :: decodeBytes rest := by
  have hb : b.toNat < 256 := b.toNat_lt
  have hh := hexDigit?_hexUpper (b.toNat / 16) (by omega)
  have hl := hexDigit?_hexUpper (b.toNat % 16) (by omega)
  have hn : b.toNat / 16 * 16 + b.toNat % 16 = b.toNat := by omega
  simp only [escapeByte, List.cons_append, List.nil_append, decodeBytes, hh, hl, hn,
    UInt8.ofNat_toNat]

theorem decodeBytes_flatMap_escapeByte (bytes : List UInt8) (rest : List Char) :
    decodeBytes (bytes.flatMap escapeByte ++ rest) = bytes ++ decodeBytes rest := by
  induction bytes with
  | nil => rfl
  | cons b more ih =>
    rw [List.flatMap_cons, List.append_assoc, decodeBytes_escapeByte_append, ih]
    rfl

theorem decodeBytes_cons {c : Char} (h : c ≠ '%') (rest : List Char) :
    decodeBytes (c :: rest) = String.utf8EncodeChar c ++ decodeBytes rest := by
  rw [decodeBytes]
  rintro _ _ _ rfl
  exact absurd rfl h

theorem decodeBytes_encode (h : needsEscape '%' = true) (cs : List Char) :
    decodeBytes (encode needsEscape cs) = Utf8.encode cs := by
  induction cs with
  | nil => rfl
  | cons c rest ih =>
    rw [encode, List.flatMap_cons, ← encode, Utf8.encode, List.flatMap_cons, ← Utf8.encode]
    split
    · rw [escapeChar, decodeBytes_flatMap_escapeByte, ih]
    · rename_i hc
      have hne : c ≠ '%' := by
        rintro rfl
        exact hc (by simp [h])
      rw [List.singleton_append, decodeBytes_cons hne, ih]

/-- **A text is read back from its escaped form.** -/
theorem decode_encode (h : needsEscape '%' = true) (cs : List Char) :
    decode (encode needsEscape cs) = cs := by
  rw [decode, decodeBytes_encode h, Utf8.decodeLossy_encode]

/-- A text without escape signs stands for itself. -/
theorem decode_of_notMem {cs : List Char} (h : '%' ∉ cs) : decode cs = cs := by
  have hbytes : decodeBytes cs = Utf8.encode cs := by
    induction cs with
    | nil => rfl
    | cons c rest ih =>
      rw [List.mem_cons, not_or] at h
      rw [decodeBytes_cons (Ne.symm h.1), ih h.2]
      rfl
  rw [decode, hbytes, Utf8.decodeLossy_encode]

/-! ## Escaped forms -/

theorem encode_append (cs ds : List Char) :
    encode needsEscape (cs ++ ds) = encode needsEscape cs ++ encode needsEscape ds :=
  List.flatMap_append

/-- A character that stands as it is. -/
def Stays (needsEscape : Char → Bool) (c : Char) : Prop :=
  needsEscape c = false ∧ c.toNat < 0x80

theorem encode_of_stays {cs : List Char} (h : ∀ c ∈ cs, Stays needsEscape c) :
    encode needsEscape cs = cs := by
  induction cs with
  | nil => rfl
  | cons c rest ih =>
    obtain ⟨hc, ha⟩ := h c List.mem_cons_self
    rw [encode, List.flatMap_cons, ← encode, ih fun d hd => h d (List.mem_cons_of_mem _ hd),
      if_neg (by simp [hc, ha])]
    rfl

theorem encode_eq_nil {cs : List Char} (h : encode needsEscape cs = []) : cs = [] := by
  cases cs with
  | nil => rfl
  | cons c rest =>
    rw [encode, List.flatMap_cons, List.append_eq_nil_iff] at h
    have hc := h.1
    split at hc
    · have hsize := congrArg List.length hc
      rw [escapeChar, List.length_flatMap] at hsize
      cases hb : String.utf8EncodeChar c with
      | nil =>
        have hlength := String.length_utf8EncodeChar c
        rw [hb] at hlength
        exact absurd hlength.symm (Nat.ne_of_gt c.utf8Size_pos)
      | cons b more =>
        rw [hb] at hsize
        simp [escapeByte] at hsize
    · cases hc

/-- Signs of escapes: the escape sign and upper-case hexadecimal digits. -/
def escapeSigns : List Char :=
  '%' :: (List.range 16).map hexUpper

theorem mem_escapeSigns_of_mem_escapeChar {c d : Char} (h : d ∈ escapeChar c) :
    d ∈ escapeSigns := by
  obtain ⟨b, -, hd⟩ := List.mem_flatMap.1 h
  have hb : b.toNat < 256 := b.toNat_lt
  simp only [escapeByte, List.mem_cons, List.not_mem_nil, or_false] at hd
  rcases hd with rfl | rfl | rfl
  · exact List.mem_cons_self
  · exact List.mem_cons_of_mem _ (List.mem_map_of_mem (List.mem_range.2 (by omega)))
  · exact List.mem_cons_of_mem _ (List.mem_map_of_mem (List.mem_range.2 (by omega)))

/-- An escaped form holds signs of escapes, and characters that stand as they are. -/
theorem mem_encode {cs : List Char} {d : Char} (h : d ∈ encode needsEscape cs) :
    d ∈ escapeSigns ∨ d ∈ cs ∧ Stays needsEscape d := by
  obtain ⟨c, hc, hd⟩ := List.mem_flatMap.1 h
  split at hd
  · exact .inl (mem_escapeSigns_of_mem_escapeChar hd)
  · rename_i hs
    rw [List.mem_singleton.1 hd]
    refine .inr ⟨hc, ?_⟩
    simpa [Stays] using hs

end JsonSchema.Percent
