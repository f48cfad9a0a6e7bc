import JsonSchema.Text.Utf8
import Mathlib

/-!
# Text through UTF-8

* `units_encode`: the characters of a text are read back one by one from its bytes.
* `decodeLossy_encode`: the bytes of a text are read back as the text.
-/

namespace JsonSchema.Utf8

theorem toNat_ofNat_of_lt {n : Nat} (h : n < 256) : (UInt8.ofNat n).toNat = n := by
  rw [UInt8.toNat_ofNat', Nat.mod_eq_of_lt h]

/-- What a lead byte calls for, by its number. -/
theorem lead?_eq (b : UInt8) :
    lead? b =
      if b.toNat < 0xC2 then none
      else if b.toNat < 0xE0 then some (1, 0x80, 0xBF)
      else if b.toNat = 0xE0 then some (2, 0xA0, 0xBF)
      else if b.toNat = 0xED then some (2, 0x80, 0x9F)
      else if b.toNat < 0xF0 then some (2, 0x80, 0xBF)
      else if b.toNat = 0xF0 then some (3, 0x90, 0xBF)
      else if b.toNat < 0xF4 then some (3, 0x80, 0xBF)
      else if b.toNat = 0xF4 then some (3, 0x80, 0x8F)
      else none := by
  simp only [lead?, UInt8.lt_iff_toNat_lt, ← UInt8.toNat_inj, UInt8.reduceToNat]

/-- The byte that carries six bits of a character. -/
def tail (n : Nat) : UInt8 :=
  UInt8.ofNat (n % 0x40 + 0x80)

@[simp] theorem toNat_tail (n : Nat) : (tail n).toNat = n % 0x40 + 0x80 :=
  toNat_ofNat_of_lt (by omega)

theorem takeTails_tail {count : Nat} {low high : UInt8} {n : Nat} (hl : low.toNat ≤ n % 64 + 128)
    (hh : n % 64 + 128 ≤ high.toNat) (rest : List UInt8) :
    takeTails (count + 1) low high (tail n :: rest) = tail n :: takeTails count 0x80 0xBF rest := by
  rw [takeTails, if_pos]
  simp only [UInt8.le_iff_toNat_le, toNat_tail]
  exact ⟨hl, hh⟩

theorem takeTails_zero (low high : UInt8) (rest : List UInt8) : takeTails 0 low high rest = [] := by
  cases rest <;> rfl

theorem tail_mod (n : Nat) : (tail n).toNat % 64 = n % 64 := by
  rw [toNat_tail]
  omega

/-- A sequence that is well-formed, by its lead byte and its tails. -/
theorem unit_of_takeTails {b : UInt8} {count : Nat} {low high : UInt8} {rest : List UInt8}
    {n : Nat} (tails : List UInt8)
    (hb : 0x80 ≤ b.toNat) (hlead : lead? b = some (count, low, high))
    (htails : takeTails count low high rest = tails) (hlength : tails.length = count)
    (hn : tails.foldl (fun n t => n * 64 + t.toNat % 64) (leadBits b count) = n) :
    unit b rest = (some (Char.ofNat n), count) := by
  have hge : ¬ b < 0x80 := by
    rw [UInt8.lt_iff_toNat_lt]
    exact Nat.not_lt.2 hb
  rw [unit, if_neg hge]
  simp only [hlead, htails, hlength, hn, if_true]

theorem unit_one {n : Nat} (h : n < 0x80) (rest : List UInt8) :
    unit (UInt8.ofNat n) rest = (some (Char.ofNat n), 0) := by
  have hn := toNat_ofNat_of_lt (show n < 256 by omega)
  rw [unit, if_pos, hn]
  rw [UInt8.lt_iff_toNat_lt, hn]
  exact h

theorem unit_two {n : Nat} (hl : 0x80 ≤ n) (hh : n < 0x800) (rest : List UInt8) :
    unit (UInt8.ofNat (n / 0x40 % 0x20 + 0xC0)) (tail n :: rest) = (some (Char.ofNat n), 1) := by
  have hb := toNat_ofNat_of_lt (show n / 0x40 % 0x20 + 0xC0 < 256 by omega)
  have hlead : lead? (UInt8.ofNat (n / 0x40 % 0x20 + 0xC0)) = some (1, 0x80, 0xBF) := by
    rw [lead?_eq, hb, if_neg (by omega), if_pos (by omega)]
  refine unit_of_takeTails [tail n] ?_ hlead ?_ rfl ?_
  · omega
  · rw [takeTails_tail (by simp) (by simp; omega), takeTails_zero]
  · simp only [List.foldl_cons, List.foldl_nil, leadBits, hb, tail_mod, Nat.pow_eq]
    omega

theorem unit_three {n : Nat} (hl : 0x800 ≤ n) (hh : n < 0x10000)
    (hs : n < 0xD800 ∨ 0xDFFF < n) (rest : List UInt8) :
    unit (UInt8.ofNat (n / 0x1000 % 0x10 + 0xE0)) (tail (n / 0x40) :: tail n :: rest) =
      (some (Char.ofNat n), 2) := by
  have hb := toNat_ofNat_of_lt (show n / 0x1000 % 0x10 + 0xE0 < 256 by omega)
  obtain ⟨low, high, hlead, hlow, hhigh⟩ : ∃ low high : UInt8,
      lead? (UInt8.ofNat (n / 0x1000 % 0x10 + 0xE0)) = some (2, low, high) ∧
        low.toNat ≤ n / 0x40 % 64 + 128 ∧ n / 0x40 % 64 + 128 ≤ high.toNat := by
    rw [lead?_eq, hb, if_neg (by omega), if_neg (by omega)]
    split
    · exact ⟨_, _, rfl, by simp; omega, by simp; omega⟩
    split
    · exact ⟨_, _, rfl, by simp, by simp; omega⟩
    · rw [if_pos (by omega)]
      exact ⟨_, _, rfl, by simp, by simp; omega⟩
  refine unit_of_takeTails [tail (n / 0x40), tail n] ?_ hlead ?_ rfl ?_
  · omega
  · rw [takeTails_tail hlow hhigh, takeTails_tail (by simp) (by simp; omega), takeTails_zero]
  · simp only [List.foldl_cons, List.foldl_nil, leadBits, hb, tail_mod, Nat.pow_eq]
    omega

theorem unit_four {n : Nat} (hl : 0x10000 ≤ n) (hh : n < 0x110000) (rest : List UInt8) :
    unit (UInt8.ofNat (n / 0x40000 % 0x08 + 0xF0))
        (tail (n / 0x1000) :: tail (n / 0x40) :: tail n :: rest) =
      (some (Char.ofNat n), 3) := by
  have hb := toNat_ofNat_of_lt (show n / 0x40000 % 0x08 + 0xF0 < 256 by omega)
  obtain ⟨low, high, hlead, hlow, hhigh⟩ : ∃ low high : UInt8,
      lead? (UInt8.ofNat (n / 0x40000 % 0x08 + 0xF0)) = some (3, low, high) ∧
        low.toNat ≤ n / 0x1000 % 64 + 128 ∧ n / 0x1000 % 64 + 128 ≤ high.toNat := by
    rw [lead?_eq, hb, if_neg (by omega), if_neg (by omega), if_neg (by omega), if_neg (by omega),
      if_neg (by omega)]
    split
    · exact ⟨_, _, rfl, by simp; omega, by simp; omega⟩
    split
    · exact ⟨_, _, rfl, by simp, by simp; omega⟩
    · rw [if_pos (by omega)]
      exact ⟨_, _, rfl, by simp, by simp; omega⟩
  refine unit_of_takeTails [tail (n / 0x1000), tail (n / 0x40), tail n] ?_ hlead ?_
    rfl ?_
  · omega
  · rw [takeTails_tail hlow hhigh, takeTails_tail (by simp) (by simp; omega),
      takeTails_tail (by simp) (by simp; omega), takeTails_zero]
  · simp only [List.foldl_cons, List.foldl_nil, leadBits, hb, tail_mod, Nat.pow_eq]
    omega

/-- A character is read back from the first bytes. -/
theorem units_utf8EncodeChar_append (c : Char) (rest : List UInt8) :
    units (String.utf8EncodeChar c ++ rest) = some c :: units rest := by
  have hc : Char.ofNat c.val.toNat = c := Char.ofNat_toNat c
  have hvalid : c.val.toNat < 0xD800 ∨ 0xDFFF < c.val.toNat ∧ c.val.toNat < 0x110000 := c.valid
  unfold String.utf8EncodeChar
  generalize c.val.toNat = n at hc hvalid
  subst hc
  simp only
  split
  · rw [List.singleton_append, units, unit_one (by omega)]
    rfl
  split
  · rw [List.cons_append, List.singleton_append, units]
    rw [show UInt8.ofNat (n % 0x40 + 0x80) = tail n from rfl, unit_two (by omega) (by omega)]
    rfl
  split
  · simp only [List.cons_append, List.nil_append]
    rw [show UInt8.ofNat (n % 0x40 + 0x80) = tail n from rfl,
      show UInt8.ofNat (n / 64 % 0x40 + 0x80) = tail (n / 64) from rfl, units,
      unit_three (by omega) (by omega) (by omega)]
    rfl
  · simp only [List.cons_append, List.nil_append]
    rw [show UInt8.ofNat (n % 0x40 + 0x80) = tail n from rfl,
      show UInt8.ofNat (n / 64 % 0x40 + 0x80) = tail (n / 64) from rfl,
      show UInt8.ofNat (n / 4096 % 0x40 + 0x80) = tail (n / 4096) from rfl, units,
      unit_four (by omega) (by omega)]
    rfl

theorem units_encode (cs : List Char) : units (encode cs) = cs.map some := by
  induction cs with
  | nil => rw [encode, List.flatMap_nil, units]; rfl
  | cons c rest ih =>
    rw [encode, List.flatMap_cons, units_utf8EncodeChar_append, ← encode, ih, List.map_cons]

/-- **The bytes of a text are read back as the text.** -/
theorem decodeLossy_encode (cs : List Char) : decodeLossy (encode cs) = cs := by
  rw [decodeLossy, units_encode, List.map_map]
  exact List.map_id cs

end JsonSchema.Utf8
