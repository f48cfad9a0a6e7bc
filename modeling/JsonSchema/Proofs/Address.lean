import JsonSchema.Proofs.Split
import JsonSchema.Url.Address
import Mathlib

/-!
# Numeric hosts are read back

* `foldl_digits_toDigits`: the digits of a number write the number.
* `ipv4?_ipv4Text`: an IPv4 address is read back from its text.
* `ipv6?_ipv6Text`: an IPv6 address is read back from its text.
-/

namespace JsonSchema

/-! ## Numbers -/

theorem length_of_mapM {α β : Type} {f : α → Option β} {as : List α} {bs : List β}
    (h : as.mapM f = some bs) : bs.length = as.length := by
  induction as generalizing bs with
  | nil =>
    cases h
    rfl
  | cons a rest ih =>
    rw [List.mapM_cons] at h
    obtain ⟨b, -, h⟩ := Option.bind_eq_some_iff.1 h
    obtain ⟨more, hm, h⟩ := Option.bind_eq_some_iff.1 h
    cases h
    rw [List.length_cons, List.length_cons, ih hm]

theorem exists_of_mem_mapM {α β : Type} {f : α → Option β} {as : List α} {bs : List β} {b : β}
    (h : as.mapM f = some bs) (hb : b ∈ bs) : ∃ a ∈ as, f a = some b := by
  induction as generalizing bs with
  | nil =>
    cases h
    cases hb
  | cons a rest ih =>
    rw [List.mapM_cons] at h
    obtain ⟨b', ha, h⟩ := Option.bind_eq_some_iff.1 h
    obtain ⟨more, hm, h⟩ := Option.bind_eq_some_iff.1 h
    cases h
    rcases List.mem_cons.1 hb with rfl | hb
    · exact ⟨a, List.mem_cons_self, ha⟩
    · obtain ⟨a', ha', hf⟩ := ih hm hb
      exact ⟨a', List.mem_cons_of_mem _ ha', hf⟩

theorem exists_digitChar_of_mem_toDigits {base n : Nat} (hb : 1 < base) {c : Char}
    (h : c ∈ Nat.toDigits base n) : ∃ d < base, c = d.digitChar := by
  induction n using Nat.strongRecOn with
  | ind n ih =>
    rw [Nat.toDigits_eq_if hb] at h
    split at h
    · rename_i hn
      exact ⟨n, hn, List.mem_singleton.1 h⟩
    · rename_i hn
      rcases List.mem_append.1 h with h | h
      · exact ih (n / base) (Nat.div_lt_self (by omega) hb) h
      · exact ⟨n % base, Nat.mod_lt _ (by omega), List.mem_singleton.1 h⟩

/-- The digits of a number write the number. -/
theorem foldl_digits_toDigits {base : Nat} (hb : 1 < base) {digit? : Char → Option Nat}
    (hd : ∀ d < base, digit? d.digitChar = some d) (n : Nat) :
    (Nat.toDigits base n).foldl
      (fun acc c => do return (← acc) * base + (← digit? c)) (some 0) = some n := by
  induction n using Nat.strongRecOn with
  | ind n ih =>
    rw [Nat.toDigits_eq_if hb]
    split
    · rename_i hn
      simp [hd n hn]
    · rename_i hn
      rw [List.foldl_append, ih (n / base) (Nat.div_lt_self (by omega) hb)]
      simp [hd (n % base) (Nat.mod_lt _ (by omega)), Nat.div_add_mod']

theorem digit?_digitChar : ∀ d < 10, CharClass.digit? d.digitChar = some d := by
  decide

theorem hexDigit?_digitChar : ∀ d < 16, CharClass.hexDigit? d.digitChar = some d := by
  decide

/-- A number is read back from its decimal digits. -/
theorem decimal?_toDigits (n : Nat) : CharClass.decimal? (Nat.toDigits 10 n) = some n := by
  have h := foldl_digits_toDigits (by decide) digit?_digitChar n
  cases hd : Nat.toDigits 10 n with
  | nil => exact absurd hd Nat.toDigits_ne_nil
  | cons c rest => rwa [hd] at h

theorem isAsciiDigit_of_mem_toDigits {n : Nat} {c : Char} (h : c ∈ Nat.toDigits 10 n) :
    CharClass.isAsciiDigit c = true := by
  obtain ⟨d, hd, rfl⟩ := exists_digitChar_of_mem_toDigits (by decide) h
  have hall : ∀ d < 10, CharClass.isAsciiDigit d.digitChar = true := by decide
  exact hall d hd

theorem isHexDigit_of_mem_toDigits {n : Nat} {c : Char} (h : c ∈ Nat.toDigits 16 n) :
    CharClass.isHexDigit c = true := by
  obtain ⟨d, hd, rfl⟩ := exists_digitChar_of_mem_toDigits (by decide) h
  rw [CharClass.isHexDigit, hexDigit?_digitChar d hd]
  rfl

namespace Url

variable {g : Groups} {n : Nat} {ns : List Nat} {cs rest : List Char}

theorem numberIn?_toDigits {base : Nat} (hb : 1 < base) (h16 : base ≤ 16) (n : Nat) :
    numberIn? base (Nat.toDigits base n) = some n := by
  refine foldl_digits_toDigits hb (fun d hd => ?_) n
  rw [digitIn?, hexDigit?_digitChar d (by omega)]
  simp [hd]

theorem numberIn?_concat (base : Nat) (cs : List Char) (c : Char) :
    numberIn? base (cs ++ [c]) =
      (numberIn? base cs).bind fun m => (digitIn? base c).map fun d => m * base + d := by
  rw [numberIn?, List.foldl_append, ← numberIn?]
  cases numberIn? base cs with
  | none => rfl
  | some m => cases hd : digitIn? base c <;> simp [hd]

theorem numberIn?_lt {base : Nat} {cs : List Char} (h : numberIn? base cs = some n) :
    n < base ^ cs.length := by
  induction cs using List.reverseRecOn generalizing n with
  | nil =>
    cases h
    exact Nat.one_pos
  | append_singleton cs c ih =>
    rw [numberIn?_concat] at h
    obtain ⟨m, hm, h⟩ := Option.bind_eq_some_iff.1 h
    obtain ⟨d, hd, rfl⟩ := Option.map_eq_some_iff.1 h
    have hlt : d < base := by simpa using (Option.filter_eq_some_iff.1 hd).2
    calc m * base + d < (m + 1) * base := by rw [Nat.succ_mul]; omega
      _ ≤ base ^ cs.length * base := Nat.mul_le_mul_right _ (ih hm)
      _ = base ^ (cs ++ [c]).length := by
        rw [List.length_append, List.length_singleton, Nat.pow_succ]

/-! ## IPv4 -/

/-- The four bytes of an address, the highest first. -/
def ipv4Bytes (n : Nat) : List Nat :=
  [n / 0x1000000 % 256, n / 0x10000 % 256, n / 256 % 256, n % 256]

theorem dot_notMem_toDigits (n : Nat) : '.' ∉ Nat.toDigits 10 n := fun h => by
  have hd := isAsciiDigit_of_mem_toDigits h
  revert hd
  decide

theorem split_ipv4Text (n : Nat) :
    Text.split '.' (ipv4Text n) = (ipv4Bytes n).map (Nat.toDigits 10) := by
  refine Text.split_join (by simp) fun p hp => ?_
  obtain ⟨b, -, rfl⟩ := List.mem_map.1 hp
  exact dot_notMem_toDigits _

theorem dottedParts_ipv4Text (n : Nat) :
    dottedParts (ipv4Text n) = (ipv4Bytes n).map (Nat.toDigits 10) := by
  rw [dottedParts, split_ipv4Text]
  simp [ipv4Bytes]

theorem endsInNumber_ipv4Text (n : Nat) : endsInNumber (ipv4Text n) = true := by
  rw [endsInNumber, dottedParts_ipv4Text]
  simp only [ipv4Bytes, List.map_cons, List.map_nil, List.getLast?_cons_cons,
    List.getLast?_singleton, Bool.or_eq_true, Bool.and_eq_true, List.all_eq_true]
  exact .inl ⟨by simp, fun c hc => isAsciiDigit_of_mem_toDigits hc⟩

theorem ipv4Number?_toDigits : ∀ b < 256, ipv4Number? (Nat.toDigits 10 b) = some b := by
  decide +kernel

theorem mapM_ipv4Number?_toDigits {bytes : List Nat} (h : ∀ b ∈ bytes, b < 256) :
    (bytes.map (Nat.toDigits 10)).mapM ipv4Number? = some bytes := by
  induction bytes with
  | nil => rfl
  | cons b rest ih =>
    obtain ⟨hb, hrest⟩ := List.forall_mem_cons.1 h
    rw [List.map_cons, List.mapM_cons, ipv4Number?_toDigits b hb, ih hrest]
    rfl

theorem ipv4?_of_dottedParts {cs : List Char} {a b c d : Nat}
    (hcs : dottedParts cs = [a, b, c, d].map (Nat.toDigits 10)) (h : ∀ n ∈ [a, b, c, d], n < 256) :
    ipv4? cs = some (a * 16777216 + b * 65536 + c * 256 + d) := by
  obtain ⟨ha, hb, hc, hd⟩ : a < 256 ∧ b < 256 ∧ c < 256 ∧ d < 256 :=
    ⟨h a (by simp), h b (by simp), h c (by simp), h d (by simp)⟩
  have hguard : ([a, b, c].any (255 < ·) || decide (Nat.pow 256 (4 - [a, b, c].length) ≤ d)) =
      false := by
    simp
    omega
  rw [ipv4?, hcs, if_neg (by simp), mapM_ipv4Number?_toDigits h]
  change (if ([a, b, c].any (255 < ·) ||
      decide (Nat.pow 256 (4 - [a, b, c].length) ≤ d)) = true then
    none else some ([a, b, c].foldr (fun n acc => n * 0x1000000 + acc / 256) 0 + d)) = _
  rw [hguard, if_neg Bool.false_ne_true, List.foldr_cons, List.foldr_cons, List.foldr_cons,
    List.foldr_nil]
  exact congrArg some (by omega)

/-- **An IPv4 address is read back from its text.** -/
theorem ipv4?_ipv4Text {n : Nat} (h : n < 0x100000000) : ipv4? (ipv4Text n) = some n := by
  have hbytes : ∀ b ∈ ipv4Bytes n, b < 256 := by
    simp only [ipv4Bytes, List.mem_cons, List.not_mem_nil, or_false]
    omega
  rw [ipv4?_of_dottedParts (dottedParts_ipv4Text n) hbytes]
  exact congrArg some (by omega)

/-- An address that was read fits into four bytes. -/
theorem ipv4?_lt {cs : List Char} {n : Nat} (h : ipv4? cs = some n) : n < 0x100000000 := by
  unfold ipv4? at h
  simp only at h
  split at h
  · cases h
  rename_i hparts
  obtain ⟨numbers, hn, h⟩ := Option.bind_eq_some_iff.1 h
  obtain ⟨last, -, h⟩ := Option.bind_eq_some_iff.1 h
  have hlength : numbers.dropLast.length ≤ 3 := by
    have := length_of_mapM hn
    rw [List.length_dropLast]
    omega
  generalize numbers.dropLast = leading at h hlength
  split at h
  · cases h
  rename_i hguard
  rw [Bool.or_eq_true, not_or, decide_eq_true_eq, List.any_eq_true, Nat.pow_eq] at hguard
  obtain ⟨hbytes, hlast⟩ := hguard
  have hbyte : ∀ b ∈ leading, b ≤ 255 := fun b hb =>
    Nat.le_of_not_lt fun hlt => hbytes ⟨b, hb, decide_eq_true hlt⟩
  have hsum := Option.some.inj h
  rw [← hsum]
  rcases leading with _ | ⟨a, _ | ⟨b, _ | ⟨c, _ | ⟨d, more⟩⟩⟩⟩
  · rw [List.length_nil] at hlast
    rw [List.foldr_nil]
    omega
  · have ha := hbyte a (by simp)
    rw [List.length_singleton] at hlast
    rw [List.foldr_cons, List.foldr_nil]
    omega
  · have ha := hbyte a (by simp)
    have hb := hbyte b (by simp)
    rw [show [a, b].length = 2 from rfl] at hlast
    rw [List.foldr_cons, List.foldr_cons, List.foldr_nil]
    omega
  · have ha := hbyte a (by simp)
    have hb := hbyte b (by simp)
    have hc := hbyte c (by simp)
    rw [show [a, b, c].length = 3 from rfl] at hlast
    rw [List.foldr_cons, List.foldr_cons, List.foldr_cons, List.foldr_nil]
    omega
  · simp only [List.length_cons] at hlength
    omega

/-! ## IPv6 -/

/-- The state of reading after some more groups. -/
def Groups.adds (g : Groups) (ns : List Nat) : Groups :=
  { g with reversed := ns.reverse ++ g.reversed }

theorem Groups.adds_adds (g : Groups) (ns ms : List Nat) :
    (g.adds ns).adds ms = g.adds (ns ++ ms) := by
  simp [adds]

theorem ne_colon_of_toDigits {c : Char} {cs : List Char} (h : Nat.toDigits 16 n = c :: cs) :
    c ≠ ':' := by
  rintro rfl
  have hx := isHexDigit_of_mem_toDigits (n := n) (h ▸ List.mem_cons_self)
  exact absurd hx (by decide)

/-- The hexadecimal digits in front of a colon or the end are taken as one group. -/
theorem takeWhile_take_toDigits (hn : n < 65536) (hrest : rest = [] ∨ rest.head? = some ':') :
    ((Nat.toDigits 16 n ++ rest).take 4).takeWhile CharClass.isHexDigit = Nat.toDigits 16 n := by
  have hlength : (Nat.toDigits 16 n).length ≤ 4 :=
    (Nat.length_toDigits_le_iff (by decide) (by decide)).2 hn
  rw [List.take_append, List.take_of_length_le hlength, List.takeWhile_append_of_pos
    fun c hc => isHexDigit_of_mem_toDigits hc]
  rcases hrest with rfl | hhead
  · simp
  · obtain ⟨more, rfl⟩ := List.head?_eq_some_iff.1 hhead
    cases 4 - (Nat.toDigits 16 n).length with
    | zero => simp
    | succ k => simp [show CharClass.isHexDigit ':' = false from rfl]

/-- One group is read, and then the rest after its colon. -/
theorem ipv6Groups?_toDigits_append (hn : n < 65536) (hg : g.reversed.length < 8)
    (hrest : rest = [] ∨ rest.head? = some ':') (hmore : rest ≠ [':']) :
    ipv6Groups? g (Nat.toDigits 16 n ++ rest) =
      if rest = [] then (g.adds [n]).complete? else ipv6Groups? (g.adds [n]) rest.tail := by
  have hdigits := takeWhile_take_toDigits hn hrest
  have hnumber := numberIn?_toDigits (by decide) (Nat.le_refl 16) n
  have hdrop : (Nat.toDigits 16 n ++ rest).drop (Nat.toDigits 16 n).length = rest :=
    List.drop_left
  cases hd : Nat.toDigits 16 n with
  | nil => exact absurd hd Nat.toDigits_ne_nil
  | cons c cs =>
    have hc := ne_colon_of_toDigits hd
    rw [hd, List.cons_append] at hdigits hdrop
    rw [hd] at hnumber
    rw [List.cons_append, ipv6Groups?.eq_3 _ _ _ hc, if_neg (Nat.not_le.2 hg)]
    simp only [hdigits]
    split <;> rename_i hcase
    all_goals simp only [hdigits, hdrop] at *
    · rw [hcase] at hrest
      simp at hrest
    · subst hcase
      rw [hnumber, if_pos rfl]
      rfl
    · exact absurd hcase hmore
    · subst hcase
      rw [hnumber, if_neg (by simp), if_neg (by simp)]
      rfl
    · rename_i hnil _
      obtain ⟨more, rfl⟩ := List.head?_eq_some_iff.1 (hrest.resolve_left hnil)
      cases more with
      | nil => exact absurd rfl hmore
      | cons next more => exact absurd rfl (hcase next more)

theorem groupsText_cons (n : Nat) (h : ns ≠ []) :
    groupsText (n :: ns) = Nat.toDigits 16 n ++ ':' :: groupsText ns := by
  rw [groupsText, List.map_cons, Text.join_cons _ _ (by simpa using h)]
  rfl

theorem groupsText_ne_nil (h : ns ≠ []) : groupsText ns ≠ [] := by
  cases ns with
  | nil => exact absurd rfl h
  | cons n more =>
    cases more with
    | nil => exact Nat.toDigits_ne_nil
    | cons m more => simp [groupsText_cons]

/-- Groups are read from their text, and then the rest after its colon. -/
theorem ipv6Groups?_groupsText_append (hne : ns ≠ []) (hns : ∀ n ∈ ns, n < 65536)
    (hg : g.reversed.length + ns.length ≤ 8) (hrest : rest = [] ∨ rest.head? = some ':')
    (hmore : rest ≠ [':']) :
    ipv6Groups? g (groupsText ns ++ rest) =
      if rest = [] then (g.adds ns).complete? else ipv6Groups? (g.adds ns) rest.tail := by
  induction ns generalizing g with
  | nil => exact absurd rfl hne
  | cons n more ih =>
    obtain ⟨hn, hns⟩ := List.forall_mem_cons.1 hns
    have hlt : g.reversed.length < 8 := by
      rw [List.length_cons] at hg
      omega
    cases hm : more with
    | nil => exact ipv6Groups?_toDigits_append hn hlt hrest hmore
    | cons m others =>
      have hne' : more ≠ [] := hm ▸ List.cons_ne_nil _ _
      have hlength : (g.adds [n]).reversed.length + more.length ≤ 8 := by
        rw [List.length_cons] at hg
        simp only [Groups.adds, List.reverse_singleton, List.singleton_append, List.length_cons]
        omega
      rw [← hm, groupsText_cons n hne', List.append_assoc, List.cons_append,
        ipv6Groups?_toDigits_append hn hlt (.inr rfl) (by simp [groupsText_ne_nil hne']),
        if_neg (by simp), List.tail_cons, ih hne' hns hlength, Groups.adds_adds]
      rfl

theorem complete?_adds (hl : ns.length = 8) : (Groups.adds ⟨[], none⟩ ns).complete? = some ns := by
  simp [Groups.complete?, Groups.adds, hl]

/-- Zeros fill the gap. -/
theorem complete?_adds_gap {before after : List Nat} {zeros : Nat} (hz : 0 < zeros)
    (hl : before.length + zeros + after.length = 8) :
    (Groups.adds ⟨before.reverse, some before.length⟩ after).complete? =
      some (before ++ List.replicate zeros 0 ++ after) := by
  have hgap : 8 - (before ++ after).length = zeros := by
    rw [List.length_append]
    omega
  have hlt : (before ++ after).length < 8 := by omega
  simp only [Groups.complete?, Groups.adds, List.reverse_append, List.reverse_reverse, hgap, hlt,
    if_true, List.take_left, List.drop_left]

theorem longestZeroRun_spec (place : Nat) (groups : List Nat) :
    ∃ before after, groups = before ++ List.replicate (longestZeroRun place groups).2 0 ++ after ∧
      (longestZeroRun place groups).1 = place + before.length := by
  induction groups generalizing place with
  | nil => exact ⟨[], [], rfl, rfl⟩
  | cons g rest ih =>
    rw [longestZeroRun]
    split
    · have hrun : (g :: rest).takeWhile (· = 0) = List.replicate (zeroRun (g :: rest)) 0 :=
        List.eq_replicate_iff.2 ⟨rfl, fun n hn => by
          simpa using List.all_eq_true.1 List.all_takeWhile n hn⟩
      refine ⟨[], (g :: rest).dropWhile (· = 0), ?_, rfl⟩
      rw [List.nil_append, ← hrun, List.takeWhile_append_dropWhile]
    · obtain ⟨before, after, hgroups, hplace⟩ := ih (place + 1)
      refine ⟨g :: before, after, by rw [List.cons_append, List.cons_append, ← hgroups], ?_⟩
      rw [hplace, List.length_cons]
      omega

theorem ipv6Groups?_gap {before after : List Nat} {zeros : Nat} (hz : 0 < zeros)
    (hl : before.length + zeros + after.length = 8) (ha : ∀ n ∈ after, n < 65536) :
    ipv6Groups? ⟨before.reverse, some before.length⟩ (groupsText after) =
      some (before ++ List.replicate zeros 0 ++ after) := by
  rw [← complete?_adds_gap hz hl]
  by_cases hne : after = []
  · subst hne
    rw [show groupsText [] = [] from rfl, ipv6Groups?]
    rfl
  · have hg : before.reverse.length + after.length ≤ 8 := by
      rw [List.length_reverse]
      omega
    rw [← List.append_nil (groupsText after),
      ipv6Groups?_groupsText_append hne ha hg (.inl rfl) (by simp), if_pos rfl]

theorem ipv6?_groupsText_append (hne : ns ≠ []) (rest : List Char) :
    ipv6? (groupsText ns ++ rest) = ipv6Groups? ⟨[], none⟩ (groupsText ns ++ rest) := by
  cases ns with
  | nil => exact absurd rfl hne
  | cons n more =>
    cases hd : Nat.toDigits 16 n with
    | nil => exact absurd hd Nat.toDigits_ne_nil
    | cons c cs =>
      have hc := ne_colon_of_toDigits hd
      obtain ⟨others, hcs⟩ : ∃ others, groupsText (n :: more) ++ rest = c :: others := by
        cases more with
        | nil => exact ⟨cs ++ rest, by simp [groupsText, Text.join, hd]⟩
        | cons m more => exact ⟨_, by rw [groupsText_cons n (by simp), hd]; rfl⟩
      rw [hcs]
      unfold ipv6?
      split
      · rename_i h
        exact absurd (List.cons.inj h).1 hc
      · rename_i h
        exact absurd (List.cons.inj h).1 hc
      · rename_i h
        cases h
      · rfl

/-- **An IPv6 address is read back from its text.** -/
theorem ipv6?_ipv6Text {groups : List Nat} (hl : groups.length = 8)
    (hg : ∀ n ∈ groups, n < 65536) : ipv6? (ipv6Text groups) = some groups := by
  obtain ⟨before, after, hgroups, hplace⟩ := longestZeroRun_spec 0 groups
  unfold ipv6Text
  simp only [hplace, Nat.zero_add]
  generalize (longestZeroRun 0 groups).2 = zeros at *
  split
  · have hne : groups ≠ [] := fun h => by simp [h] at hl
    rw [← List.append_nil (groupsText groups), ipv6?_groupsText_append hne,
      ipv6Groups?_groupsText_append hne hg (by simp [hl]) (.inl rfl) (by simp), if_pos rfl,
      complete?_adds hl]
  rename_i hzeros
  have hlength : before.length + zeros + after.length = 8 := by
    rw [hgroups] at hl
    simpa [Nat.add_assoc] using hl
  have hafter : ∀ n ∈ after, n < 65536 := fun n hn => hg n (by simp [hgroups, hn])
  have htake : groups.take before.length = before := by
    rw [hgroups, List.append_assoc, List.take_left]
  have hdrop : groups.drop (before.length + zeros) = after := by
    rw [hgroups, List.drop_left' (by simp)]
  have hgap := ipv6Groups?_gap (by omega) hlength hafter
  rw [htake, hdrop, List.append_assoc, hgroups, ← hgap]
  by_cases hne : before = []
  · subst hne
    rfl
  · have hbefore : ∀ n ∈ before, n < 65536 := fun n hn => hg n (by simp [hgroups, hn])
    rw [ipv6?_groupsText_append hne, ipv6Groups?_groupsText_append hne hbefore (by simp; omega)
      (.inr rfl) (by simp), if_neg (by simp)]
    simp only [List.cons_append, List.nil_append, List.tail_cons, Groups.adds, List.append_nil]
    rw [ipv6Groups?, if_neg (by simp; omega), List.length_reverse]

/-- Eight groups, each of them within sixteen bits. -/
def AreGroups (groups : List Nat) : Prop :=
  groups.length = 8 ∧ ∀ n ∈ groups, n < 65536

theorem areGroups_of_complete? {groups : List Nat} (hg : ∀ n ∈ g.reversed, n < 65536)
    (h : g.complete? = some groups) : AreGroups groups := by
  unfold Groups.complete? at h
  simp only at h
  split at h
  · split at h
    · rename_i hl
      cases h
      exact ⟨hl, fun n hn => hg n (List.mem_reverse.1 hn)⟩
    · cases h
  · split at h
    · rename_i k hgap hl
      cases h
      refine ⟨?_, fun n hn => ?_⟩
      · simp only [List.length_append, List.length_replicate, List.length_take, List.length_drop]
        omega
      · simp only [List.mem_append, List.mem_replicate] at hn
        rcases hn with (hn | ⟨-, rfl⟩) | hn
        · exact hg n (List.mem_reverse.1 (List.mem_of_mem_take hn))
        · decide
        · exact hg n (List.mem_reverse.1 (List.mem_of_mem_drop hn))
    · cases h

theorem ipv4Groups?_lt {cs : List Char} (h : ipv4Groups? cs = some ns) : ∀ n ∈ ns, n < 65536 := by
  unfold ipv4Groups? at h
  simp only at h
  split at h
  · cases h
  obtain ⟨bytes, hbytes, h⟩ := Option.bind_eq_some_iff.1 h
  have hbyte : ∀ b ∈ bytes, b ≤ 255 := by
    intro b hb
    obtain ⟨p, -, hp⟩ := exists_of_mem_mapM hbytes hb
    split at hp
    · cases hp
    obtain ⟨m, -, hm⟩ := Option.bind_eq_some_iff.1 hp
    split at hm
    · rename_i hle
      cases hm
      exact hle
    · cases hm
  split at h
  · cases h
    simp only [List.forall_mem_cons, List.not_mem_nil, false_implies, implies_true,
      and_true] at hbyte ⊢
    omega
  · cases h

theorem areGroups_of_ipv6Groups? {cs : List Char} {groups : List Nat}
    (hg : ∀ n ∈ g.reversed, n < 65536) (h : ipv6Groups? g cs = some groups) :
    AreGroups groups := by
  have hnumber {n : Nat} {cs : List Char}
      (hn : numberIn? 16 ((cs.take 4).takeWhile CharClass.isHexDigit) = some n) : n < 65536 := by
    have hlt := numberIn?_lt hn
    have hle := (List.takeWhile_sublist CharClass.isHexDigit (l := cs.take 4)).length_le
    have hpow : 16 ^ ((cs.take 4).takeWhile CharClass.isHexDigit).length ≤ 16 ^ 4 :=
      Nat.pow_le_pow_right (by decide) (by rw [List.length_take] at hle; omega)
    omega
  fun_induction ipv6Groups? g cs
  case case1 => exact areGroups_of_complete? hg h
  case case3 ih => exact ih hg h
  case case6 =>
    obtain ⟨low, hlow, h⟩ := Option.bind_eq_some_iff.1 h
    refine areGroups_of_complete? (fun n hn => ?_) h
    rcases List.mem_append.1 hn with hn | hn
    · exact ipv4Groups?_lt hlow n (List.mem_reverse.1 hn)
    · exact hg n hn
  case case7 =>
    obtain ⟨m, hm, h⟩ := Option.bind_eq_some_iff.1 h
    exact areGroups_of_complete? (List.forall_mem_cons.2 ⟨hnumber hm, hg⟩ : ∀ n ∈ m :: _, _) h
  case case10 ih =>
    obtain ⟨m, hm, h⟩ := Option.bind_eq_some_iff.1 h
    exact ih m (List.forall_mem_cons.2 ⟨hnumber hm, hg⟩) h
  all_goals cases h

/-- An IPv6 address that was read has eight groups of sixteen bits. -/
theorem areGroups_of_ipv6? {cs : List Char} {groups : List Nat} (h : ipv6? cs = some groups) :
    AreGroups groups := by
  have hnil : ∀ n ∈ ([] : List Nat), n < 65536 := fun n hn => absurd hn List.not_mem_nil
  unfold ipv6? at h
  split at h
  · exact areGroups_of_ipv6Groups? hnil h
  · cases h
  · cases h
  · exact areGroups_of_ipv6Groups? hnil h

end Url

end JsonSchema
