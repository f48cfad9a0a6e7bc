import JsonSchema.Proofs.Address
import JsonSchema.Proofs.Idna
import JsonSchema.Proofs.Percent
import JsonSchema.Proofs.Split
import JsonSchema.Proofs.Uri
import JsonSchema.Url
import Mathlib

/-!
# Authorities of URLs are in their final form

* `Authority.IsNormal`: the authorities that `Url.authorityOf` reads.
* `isNormal_of_authorityOf`: every authority that is read is one of them.
* `authorityOf_toChars`: such an authority is read from its own text, if that is read at all.
-/

namespace JsonSchema.Url

variable {special : Bool} {kind : SchemeKind} {scheme text host digits : List Char}

/-! ## Characters -/

/-- A character that ends neither user and password nor the authority. -/
def InAuthority (c : Char) : Prop :=
  0x20 < c.toNat ∧ isSlash true c = false ∧ endsPath c = false ∧ c ≠ '@'

instance : DecidablePred InAuthority := fun c => by
  unfold InAuthority
  infer_instance

/-- Characters of host names and addresses without brackets. -/
def InName (c : Char) : Prop :=
  InAuthority c ∧ c ≠ ':' ∧ c ≠ '[' ∧ c ≠ '|'

instance : DecidablePred InName := fun c => by
  unfold InName
  infer_instance

theorem isSlash_of_true {c : Char} (h : isSlash true c = false) (special : Bool) :
    isSlash special c = false := by
  cases special with
  | true => exact h
  | false => simpa [isSlash] using (Bool.or_eq_false_iff.1 h).1

theorem inName_escapeSigns : ∀ c ∈ Percent.escapeSigns, InName c ∧
    Percent.Stays escapedInCredentials c ∧ Percent.Stays isControl c := by
  unfold Percent.Stays
  exact List.all_iff_forall_prop.1 (by decide)

/-! ## User and password -/

/-- User and password in their final form, with the sign after them. -/
def IsCredentials (credentials : List Char) : Prop :=
  credentials = [] ∨ ∃ text, credentials = text ++ ['@'] ∧ (∀ c ∈ text, InAuthority c) ∧
    credentialsText text = credentials

/-- User and password, escaped, as they are written together. -/
def writtenCredentials (user password : List Char) : List Char :=
  user ++ if password = [] then [] else ':' :: password

theorem credentialsText_eq (text : List Char) :
    credentialsText text =
      if Percent.encode escapedInCredentials (text.takeWhile (· ≠ ':')) = [] ∧
          Percent.encode escapedInCredentials ((text.dropWhile (· ≠ ':')).drop 1) = [] then []
      else
        writtenCredentials (Percent.encode escapedInCredentials (text.takeWhile (· ≠ ':')))
          (Percent.encode escapedInCredentials ((text.dropWhile (· ≠ ':')).drop 1)) ++ ['@'] := by
  rw [credentialsText, List.span_eq_takeWhile_dropWhile]
  rfl

theorem stays_of_mem_encode_credentials {c : Char}
    (h : c ∈ Percent.encode escapedInCredentials text) :
    Percent.Stays escapedInCredentials c ∧ InAuthority c ∧ c ≠ ':' := by
  rcases Percent.mem_encode h with hsign | ⟨-, hstays⟩
  · obtain ⟨hin, hstays, -⟩ := inName_escapeSigns c hsign
    exact ⟨hstays, hin.1, hin.2.1⟩
  · have hin : escapedInCredentials c = false → InAuthority c ∧ c ≠ ':' := by
      refine Uri.of_isAscii hstays.2 ?_
      decide
    exact ⟨hstays, hin hstays.1⟩

theorem credentialsText_writtenCredentials {user password : List Char}
    (hu : ∀ c ∈ user, Percent.Stays escapedInCredentials c ∧ c ≠ ':')
    (hp : ∀ c ∈ password, Percent.Stays escapedInCredentials c)
    (hne : ¬(user = [] ∧ password = [])) :
    credentialsText (writtenCredentials user password) =
      writtenCredentials user password ++ ['@'] := by
  have hspan : (writtenCredentials user password).takeWhile (· ≠ ':') = user ∧
      ((writtenCredentials user password).dropWhile (· ≠ ':')).drop 1 = password := by
    have hcolon : ∀ c ∈ user, decide (c ≠ ':') = true := fun c hc => decide_eq_true (hu c hc).2
    have hstop : ∀ c ∈ (if password = [] then [] else ':' :: password).head?,
        decide (c ≠ ':') = false := by
      split <;> simp
    rw [writtenCredentials, Text.takeWhile_append hcolon hstop, Text.dropWhile_append hcolon hstop]
    split
    · rename_i hnil
      exact ⟨rfl, hnil.symm⟩
    · exact ⟨rfl, rfl⟩
  rw [credentialsText_eq, hspan.1, hspan.2, Percent.encode_of_stays fun c hc => (hu c hc).1,
    Percent.encode_of_stays hp, if_neg hne]

theorem isCredentials_credentialsText (text : List Char) :
    IsCredentials (credentialsText text) := by
  rw [credentialsText_eq]
  split
  · exact .inl rfl
  · rename_i hne
    refine .inr ⟨_, rfl, fun c hc => ?_, credentialsText_writtenCredentials
      (fun c hc => ?_) (fun c hc => (stays_of_mem_encode_credentials hc).1) hne⟩
    · rcases List.mem_append.1 hc with hc | hc
      · exact (stays_of_mem_encode_credentials hc).2.1
      · split at hc
        · cases hc
        · rcases List.mem_cons.1 hc with rfl | hc
          · decide
          · exact (stays_of_mem_encode_credentials hc).2.1
    · obtain ⟨hstays, -, hcolon⟩ := stays_of_mem_encode_credentials hc
      exact ⟨hstays, hcolon⟩

theorem splitCredentials_of_notMem (h : '@' ∉ text) : splitCredentials text = (none, text) := by
  have hall : ∀ c ∈ text.reverse, decide (c ≠ '@') = true := fun c hc =>
    decide_eq_true fun he => h (he ▸ List.mem_reverse.1 hc)
  have hdrop : (text.reverse ++ []).dropWhile (· ≠ '@') = [] := Text.dropWhile_append hall nofun
  rw [List.append_nil] at hdrop
  rw [splitCredentials, List.span_eq_takeWhile_dropWhile, hdrop]

theorem splitCredentials_append {address : List Char} (h : '@' ∉ address) (before : List Char) :
    splitCredentials (before ++ '@' :: address) = (some before, address) := by
  have hall : ∀ c ∈ address.reverse, decide (c ≠ '@') = true := fun c hc =>
    decide_eq_true fun he => h (he ▸ List.mem_reverse.1 hc)
  have hstop : ∀ c ∈ ('@' :: before.reverse).head?, decide (c ≠ '@') = false := by simp
  rw [splitCredentials, List.reverse_append, List.reverse_cons, List.append_assoc,
    List.singleton_append, List.span_eq_takeWhile_dropWhile, Text.takeWhile_append hall hstop,
    Text.dropWhile_append hall hstop]
  simp

/-! ## Hosts -/

/-- The host of a text, for schemes that are special and others. -/
def hostOf (special : Bool) (text : List Char) : Except Refusal (List Char) :=
  if special then domainHost text else plainHost text

/-- A port with its colon, if there is one. -/
def portPart (port : Option (List Char)) : List Char :=
  port.elim [] (':' :: ·)

/-- A host in its final form: it is split from its port, and if it is read again, it stays. -/
structure IsHost (special : Bool) (host : List Char) : Prop where
  chars : ∀ c ∈ host, InAuthority c
  ne_nil : host ≠ []
  splitPort : ∀ port, splitPort false (host ++ portPart port) = (host, port)
  again : ∀ other, hostOf special host = .ok other → other = host
  isDrive : isDrive host = false

theorem splitPort_of_notMem (h : ∀ c ∈ text, c ≠ ':' ∧ c ≠ '[') (port : Option (List Char)) :
    splitPort false (text ++ portPart port) = (text, port) := by
  induction text with
  | nil => cases port <;> simp [splitPort, portPart]
  | cons c rest ih =>
    obtain ⟨⟨hcolon, hbracket⟩, hrest⟩ := List.forall_mem_cons.1 h
    rw [List.cons_append, splitPort]
    simp [hcolon, hbracket, ih hrest]

/-- Colons in brackets start no port. -/
theorem splitPort_bracketed (h : ∀ c ∈ text, c ≠ '[' ∧ c ≠ ']') (port : Option (List Char)) :
    splitPort false ('[' :: text ++ [']'] ++ portPart port) = ('[' :: text ++ [']'], port) := by
  have hclose : splitPort true (']' :: portPart port) = ([']'], port) := by
    cases port <;> simp [splitPort, portPart]
  have hinner : splitPort true (text ++ ']' :: portPart port) = (text ++ [']'], port) := by
    induction text with
    | nil => exact hclose
    | cons c rest ih =>
      obtain ⟨⟨hopen, hend⟩, hrest⟩ := List.forall_mem_cons.1 h
      rw [List.cons_append, splitPort]
      simp [hopen, hend, ih hrest]
  rw [List.cons_append, List.cons_append, List.append_assoc, splitPort]
  simp [hinner]

theorem isDrive_of_notMem (h : ∀ c ∈ text, c ≠ ':' ∧ c ≠ '|') : isDrive text = false := by
  unfold isDrive
  split
  · rename_i c d
    obtain ⟨hcolon, hbar⟩ := h d (by simp)
    simp [hcolon, hbar]
  · rfl

theorem mem_groupsText {groups : List Nat} {c : Char} (h : c ∈ groupsText groups) :
    c = ':' ∨ ∃ d < 16, c = d.digitChar := by
  rcases Text.mem_join h with rfl | ⟨p, hp, hc⟩
  · exact .inl rfl
  · obtain ⟨n, -, rfl⟩ := List.mem_map.1 hp
    exact .inr (exists_digitChar_of_mem_toDigits (by decide) hc)

theorem mem_ipv6Text {groups : List Nat} {c : Char} (h : c ∈ ipv6Text groups) :
    c = ':' ∨ ∃ d < 16, c = d.digitChar := by
  unfold ipv6Text at h
  simp only at h
  split at h
  · exact mem_groupsText h
  · simp only [List.mem_append, List.mem_cons, List.not_mem_nil, or_false, or_self] at h
    rcases h with (h | h) | h
    · exact mem_groupsText h
    · exact .inl h
    · exact mem_groupsText h

theorem inAuthority_of_mem_ipv6Text {groups : List Nat} :
    ∀ c ∈ ipv6Text groups, InAuthority c ∧ c ≠ '[' ∧ c ≠ ']' := by
  intro c hc
  have hall : ∀ d < 16, InAuthority d.digitChar ∧ d.digitChar ≠ '[' ∧ d.digitChar ≠ ']' := by
    decide
  rcases mem_ipv6Text hc with rfl | ⟨d, hd, rfl⟩
  · decide
  · exact hall d hd

theorem bracketHost_eq_ok (h : bracketHost text = .ok host) :
    ∃ groups, AreGroups groups ∧ host = '[' :: ipv6Text groups ++ [']'] := by
  unfold bracketHost at h
  split at h
  · split at h
    · rename_i groups hg
      cases h
      exact ⟨groups, areGroups_of_ipv6? hg, rfl⟩
    · cases h
  · cases h

/-- An address in brackets is a host for every scheme. -/
theorem isHost_bracketHost (special : Bool) (h : bracketHost text = .ok host) :
    IsHost special host := by
  obtain ⟨groups, ⟨hl, hg⟩, rfl⟩ := bracketHost_eq_ok h
  have hbracket : bracketHost ('[' :: ipv6Text groups ++ [']']) =
      .ok ('[' :: ipv6Text groups ++ [']']) := by
    rw [bracketHost, if_pos List.getLast?_concat, List.cons_append, List.drop_one, List.tail_cons,
      List.dropLast_concat, ipv6?_ipv6Text hl hg]
    rfl
  refine ⟨fun c hc => ?_, by simp, splitPort_bracketed fun c hc =>
    (inAuthority_of_mem_ipv6Text c hc).2, fun other ho => ?_, ?_⟩
  · simp only [List.cons_append, List.mem_cons, List.mem_append, List.not_mem_nil, or_false] at hc
    rcases hc with rfl | hc | rfl
    · decide
    · exact (inAuthority_of_mem_ipv6Text c hc).1
    · decide
  · have hread : hostOf special ('[' :: ipv6Text groups ++ [']']) =
        bracketHost ('[' :: ipv6Text groups ++ [']']) := by
      unfold hostOf domainHost plainHost
      split <;> rfl
    rw [hread, hbracket] at ho
    exact (Except.ok.inj ho).symm
  · unfold isDrive
    split
    · rename_i hcs
      rw [List.cons_append] at hcs
      rw [← (List.cons.inj hcs).1]
      rfl
    · rfl

/-- A host without brackets, if reading it again is no change. -/
theorem isHost_of_inName (hchars : ∀ c ∈ host, InName c) (hne : host ≠ [])
    (hagain : ∀ other, hostOf special host = .ok other → other = host) : IsHost special host where
  chars c hc := (hchars c hc).1
  ne_nil := hne
  splitPort := splitPort_of_notMem fun c hc => ⟨(hchars c hc).2.1, (hchars c hc).2.2.1⟩
  again := hagain
  isDrive := isDrive_of_notMem fun c hc => ⟨(hchars c hc).2.1, (hchars c hc).2.2.2⟩

theorem head?_ne_of_inName (hchars : ∀ c ∈ host, InName c) : host.head? ≠ some '[' := fun h =>
  (hchars '[' (List.mem_of_mem_head? h)).2.2.1 rfl

/-- A host name in ASCII is read as itself, or as the address that it writes. -/
theorem domainHost_of_isAsciiText (ha : IsAsciiText host)
    (hf : ∀ c ∈ host, Idna.isForbidden c = false) {other : List Char}
    (h : domainHost host = .ok other) :
    if endsInNumber host then ∃ n, ipv4? host = some n ∧ other = ipv4Text n else other = host := by
  have hhead : host.head? ≠ some '[' := fun he =>
    absurd (hf '[' (List.mem_of_mem_head? he)) (by decide)
  have hpercent : '%' ∉ host := fun hm => absurd (hf '%' hm) (by decide)
  rw [domainHost, if_neg hhead, Percent.decode_of_notMem hpercent] at h
  cases hd : Idna.toAscii? host with
  | none => rw [hd] at h; cases h
  | some domain =>
    obtain rfl := Idna.eq_of_toAscii? ha hf hd
    rw [hd] at h
    split at h
    · cases h
    · cases h
    · rename_i hsome
      cases hsome
      split at h
      · rename_i hnumber
        rw [if_pos hnumber]
        split at h
        · rename_i n hn
          cases h
          exact ⟨n, hn, rfl⟩
        · cases h
      · rename_i hnumber
        rw [if_neg hnumber]
        cases h
        rfl

theorem inName_of_isForbidden {c : Char} (ha : c.toNat < 0x80)
    (hf : Idna.isForbidden c = false) : InName c := by
  revert hf
  refine Uri.of_isAscii ha ?_
  decide

/-- The characters of an IPv4 address are digits and dots. -/
theorem isForbidden_of_mem_ipv4Text {n : Nat} {c : Char} (h : c ∈ ipv4Text n) :
    c.toNat < 0x80 ∧ Idna.isForbidden c = false := by
  have hall : ∀ d < 10, d.digitChar.toNat < 0x80 ∧ Idna.isForbidden d.digitChar = false := by
    decide
  rcases Text.mem_join h with rfl | ⟨p, hp, hc⟩
  · decide
  · obtain ⟨b, -, rfl⟩ := List.mem_map.1 hp
    obtain ⟨d, hd, rfl⟩ := exists_digitChar_of_mem_toDigits (by decide) hc
    exact hall d hd

theorem ipv4Text_ne_nil (n : Nat) : ipv4Text n ≠ [] := fun h => by
  have hnumber := endsInNumber_ipv4Text n
  rw [h] at hnumber
  exact absurd hnumber (by decide)

/-- A host of a special scheme is in its final form. -/
theorem isHost_domainHost (h : domainHost text = .ok host) : IsHost true host := by
  unfold domainHost at h
  split at h
  · exact isHost_bracketHost true h
  split at h
  · cases h
  · cases h
  rename_i domain hne hd
  obtain ⟨hascii, hforbidden⟩ := Idna.isAsciiText_of_toAscii? hd
  split at h
  · split at h
    · rename_i n hn
      cases h
      have hchars : IsAsciiText (ipv4Text n) := fun c hc => (isForbidden_of_mem_ipv4Text hc).1
      have hforbidden : ∀ c ∈ ipv4Text n, Idna.isForbidden c = false := fun c hc =>
        (isForbidden_of_mem_ipv4Text hc).2
      refine isHost_of_inName (fun c hc => inName_of_isForbidden (hchars c hc) (hforbidden c hc))
        (ipv4Text_ne_nil n) fun other ho => ?_
      have hagain := domainHost_of_isAsciiText hchars hforbidden ho
      rw [if_pos (endsInNumber_ipv4Text n), ipv4?_ipv4Text (ipv4?_lt hn)] at hagain
      obtain ⟨m, hm, rfl⟩ := hagain
      rw [Option.some.inj hm]
    · cases h
  · rename_i hnumber
    cases h
    refine isHost_of_inName (fun c hc => inName_of_isForbidden (hascii c hc) (hforbidden c hc))
      hne fun other ho => ?_
    have hagain := domainHost_of_isAsciiText hascii hforbidden ho
    rwa [if_neg hnumber] at hagain

/-- A host of a scheme that is not special is in its final form. -/
theorem isHost_plainHost (hne : text ≠ []) (h : plainHost text = .ok host) :
    IsHost false host := by
  unfold plainHost at h
  split at h
  · exact isHost_bracketHost false h
  split at h
  · cases h
  rename_i hrefused
  cases h
  have hname : ∀ c ∈ text, Percent.Stays isControl c → InName c := by
    rintro c hc ⟨hcontrol, hascii⟩
    have hlist := fun hl => hrefused (List.any_eq_true.2 ⟨c, hc, hl⟩)
    revert hcontrol hlist
    refine Uri.of_isAscii hascii ?_
    decide
  have hchars : ∀ c ∈ Percent.encode isControl text, InName c ∧ Percent.Stays isControl c := by
    intro c hc
    rcases Percent.mem_encode hc with hsign | ⟨hc, hstays⟩
    · exact ⟨(inName_escapeSigns c hsign).1, (inName_escapeSigns c hsign).2.2⟩
    · exact ⟨hname c hc hstays, hstays⟩
  refine isHost_of_inName (fun c hc => (hchars c hc).1) (fun he => hne (Percent.encode_eq_nil he))
    fun other ho => ?_
  have hread : plainHost (Percent.encode isControl text) = .ok other := ho
  rw [plainHost, if_neg (head?_ne_of_inName fun c hc => (hchars c hc).1)] at hread
  split at hread
  · cases hread
  · rw [Percent.encode_of_stays fun c hc => (hchars c hc).2] at hread
    exact (Except.ok.inj hread).symm

theorem isHost_hostOf (hne : text ≠ []) (h : hostOf special text = .ok host) :
    IsHost special host := by
  cases special with
  | true => exact isHost_domainHost h
  | false => exact isHost_plainHost hne h

/-! ## Whole authorities -/

/-- An authority in its final form. -/
structure Authority.IsNormal (scheme : List Char) (a : Authority) : Prop where
  credentials : IsCredentials a.credentials
  host : a.host ≠ [] → IsHost (SchemeKind.of scheme).isSpecial a.host
  empty : a.host = [] → a = ⟨[], [], none⟩ ∧ (SchemeKind.of scheme).isSpecial = false
  port : ∀ n, a.port = some n → portOf scheme (Nat.toDigits 10 n) = .ok (some n)

variable {a other : Authority} {more : Bool}

/-- A port that was read is read from its digits. -/
theorem portOf_toDigits {n : Nat} (h : portOf scheme digits = .ok (some n)) :
    portOf scheme (Nat.toDigits 10 n) = .ok (some n) := by
  unfold portOf at h
  split at h
  · cases h
  split at h
  · cases h
  split at h
  · cases h
  rename_i hbound
  split at h
  · cases h
  rename_i hdefault
  cases h
  rw [portOf, if_neg Nat.toDigits_ne_nil, decimal?_toDigits]
  simp only [if_neg hbound, hdefault]
  rfl

section Parts

variable {credentials port : Option (List Char)} {address : List Char}

/-- An authority without host has nothing else, either. -/
theorem authorityOf_of_eq_nil (hc : splitCredentials text = (credentials, address))
    (hp : splitPort false address = ([], port)) :
    authorityOf scheme text more =
      if (SchemeKind.of scheme).isSpecial || port.isSome ||
          credentialsText (credentials.getD []) ≠ [] || (more && credentials = some []) then
        .error .emptyHost
      else .ok ⟨credentialsText (credentials.getD []), [], none⟩ := by
  unfold authorityOf
  simp only [hc, hp, if_true]
  split <;> rfl

theorem authorityOf_of_ne_nil (hc : splitCredentials text = (credentials, address))
    (hp : splitPort false address = (host, port)) (hne : host ≠ []) :
    authorityOf scheme text more = (do
      let host ← hostOf (SchemeKind.of scheme).isSpecial host
      let port ← portOf scheme (port.getD [])
      return ⟨credentialsText (credentials.getD []), host, port⟩) := by
  unfold authorityOf hostOf
  simp only [hc, hp, if_neg hne]
  split <;> rfl

end Parts

/-- **An authority that was read is in its final form.** -/
theorem isNormal_of_authorityOf (h : authorityOf scheme text more = .ok a) :
    a.IsNormal scheme := by
  obtain ⟨⟨credentials, address⟩, hc⟩ : ∃ p, splitCredentials text = p := ⟨_, rfl⟩
  obtain ⟨⟨host, port⟩, hp⟩ : ∃ p, splitPort false address = p := ⟨_, rfl⟩
  by_cases hne : host = []
  · subst hne
    rw [authorityOf_of_eq_nil hc hp] at h
    split at h
    · cases h
    rename_i hempty
    cases h
    simp only [Bool.or_eq_true, not_or, decide_eq_true_eq, not_not, Bool.not_eq_true] at hempty
    refine ⟨isCredentials_credentialsText _, fun hhost => absurd rfl hhost, fun _ => ?_, nofun⟩
    rw [hempty.1.2]
    exact ⟨rfl, hempty.1.1.1⟩
  · rw [authorityOf_of_ne_nil hc hp hne] at h
    obtain ⟨newHost, hhost, h⟩ := Uri.bind_eq_ok_iff.1 h
    obtain ⟨newPort, hport, h⟩ := Uri.bind_eq_ok_iff.1 h
    cases h
    have hnew := isHost_hostOf hne hhost
    refine ⟨isCredentials_credentialsText _, fun _ => hnew, fun he => absurd he hnew.ne_nil, ?_⟩
    rintro n rfl
    exact portOf_toDigits hport

theorem Authority.toChars_eq (a : Authority) :
    a.toChars = a.credentials ++ (a.host ++ portPart (a.port.map (Nat.toDigits 10))) := by
  obtain ⟨credentials, host, port⟩ := a
  cases port <;> simp [toChars, portPart]

theorem inAuthority_of_mem_portPart {port : Option Nat} :
    ∀ c ∈ portPart (port.map (Nat.toDigits 10)), InAuthority c := by
  intro c hc
  cases port with
  | none => cases hc
  | some n =>
    have hall : ∀ d < 10, InAuthority d.digitChar := by decide
    rcases List.mem_cons.1 hc with rfl | hc
    · decide
    · obtain ⟨d, hd, rfl⟩ := exists_digitChar_of_mem_toDigits (by decide) hc
      exact hall d hd

/-- Host and port hold nothing that ends an authority. -/
theorem Authority.IsNormal.inAuthority (h : a.IsNormal scheme) :
    ∀ c ∈ a.host ++ portPart (a.port.map (Nat.toDigits 10)), InAuthority c := by
  refine List.forall_mem_append.2 ⟨fun c hc => ?_, inAuthority_of_mem_portPart⟩
  exact (h.host (List.ne_nil_of_mem hc)).chars c hc

/-- The text of an authority holds nothing that ends it. -/
theorem Authority.IsNormal.chars (h : a.IsNormal scheme) :
    ∀ c ∈ a.toChars, 0x20 < c.toNat ∧ isSlash true c = false ∧ endsPath c = false := by
  rw [Authority.toChars_eq]
  refine List.forall_mem_append.2 ⟨fun c hc => ?_, fun c hc => ?_⟩
  · rcases h.credentials with he | ⟨text, he, htext, -⟩
    · rw [he] at hc
      cases hc
    · rw [he] at hc
      rcases List.mem_append.1 hc with hc | hc
      · obtain ⟨h₁, h₂, h₃, -⟩ := htext c hc
        exact ⟨h₁, h₂, h₃⟩
      · rw [List.mem_singleton.1 hc]
        decide
  · obtain ⟨h₁, h₂, h₃, -⟩ := h.inAuthority c hc
    exact ⟨h₁, h₂, h₃⟩

theorem portOf_of_isNormal (h : a.IsNormal scheme) :
    portOf scheme ((a.port.map (Nat.toDigits 10)).getD []) = .ok a.port := by
  cases hp : a.port with
  | none => rfl
  | some n => exact h.port n hp

/-- **An authority in its final form is read from its own text**, if that is read at all. -/
theorem authorityOf_toChars (h : a.IsNormal scheme)
    (ho : authorityOf scheme a.toChars more = .ok other) : other = a := by
  by_cases hne : a.host = []
  · obtain ⟨rfl, hs⟩ := h.empty hne
    have hread : authorityOf scheme [] more = .ok ⟨[], [], none⟩ := by
      have hnil : credentialsText [] = [] := rfl
      have hsplit : splitCredentials [] = (none, []) := rfl
      rw [authorityOf_of_eq_nil hsplit rfl, hs]
      simp [hnil]
    exact (Except.ok.inj (hread.symm.trans ho)).symm
  have hhost := h.host hne
  have hat : '@' ∉ a.host ++ portPart (a.port.map (Nat.toDigits 10)) := fun hm =>
    (h.inAuthority '@' hm).2.2.2 rfl
  obtain ⟨credentials, hsplit, hcredentials⟩ : ∃ credentials,
      splitCredentials a.toChars =
          (credentials, a.host ++ portPart (a.port.map (Nat.toDigits 10))) ∧
        credentialsText (credentials.getD []) = a.credentials := by
    rw [Authority.toChars_eq]
    rcases h.credentials with he | ⟨text, he, -, htext⟩
    · rw [he]
      exact ⟨none, splitCredentials_of_notMem hat, rfl⟩
    · refine ⟨some text, ?_, htext⟩
      rw [he, List.append_assoc, List.singleton_append, splitCredentials_append hat]
  rw [authorityOf_of_ne_nil hsplit (hhost.splitPort _) hne, hcredentials] at ho
  obtain ⟨host, hread, ho⟩ := Uri.bind_eq_ok_iff.1 ho
  rw [portOf_of_isNormal h, hhost.again host hread] at ho
  exact (Except.ok.inj ho).symm

end JsonSchema.Url
