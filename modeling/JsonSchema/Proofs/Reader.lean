import JsonSchema.Load
import JsonSchema.Proofs.Reordered
import JsonSchema.Proofs.Uri
import Mathlib

/-!
# Documents that are read

No object of a document that was read repeats a name: the reader puts a member in the place of an
earlier one with its name. The finished parts that a state of the reader holds are well-formed, and
every token keeps them so.

* `Json.Scan.isScalar_of_lexeme`: a token by itself writes no object.
* `Json.State.IsWellFormed`: states whose finished parts are well-formed.
* `Json.State.isWellFormed_step` and `Json.State.isWellFormed_run`: one token, and all of them.
* `Json.wellFormed_of_read`: a document that was read is well-formed.
-/

namespace JsonSchema

namespace Json

/-! ## Tokens -/

/-- Values without parts. -/
def IsScalar : Json → Prop
  | .arr _ | .obj _ => False
  | _ => True

theorem IsScalar.wellFormed {v : Json} (h : v.IsScalar) : v.WellFormed := by
  cases v with
  | arr items => cases h
  | obj members => cases h
  | _ => trivial

namespace Scan

variable {negative : Bool} {bytes : List UInt8} {taken count digits : Nat} {scale : Int}
  {v w : Json}

theorem eq_of_literal {expected : List Char}
    (h : literal expected v bytes taken = .ok (w, count)) : w = v := by
  induction expected generalizing bytes taken with
  | nil =>
    rw [literal] at h
    cases h
    rfl
  | cons e more ih =>
    cases bytes with
    | nil => cases h
    | cons b rest =>
      rw [literal] at h
      split at h
      · exact ih h
      · cases h

theorem isScalar_of_real (h : real negative digits scale taken = .ok (v, count)) : v.IsScalar := by
  unfold real at h
  split at h
  · cases h
    trivial
  · cases h

theorem isScalar_of_exponent (h : exponent negative digits scale bytes taken = .ok (v, count)) :
    v.IsScalar := by
  unfold exponent at h
  -- the sign of the exponent
  split at h
  split at h
  · cases h
  split at h
  · simp only at h
    generalize exponentDigits _ 0 0 = written at h
    obtain ⟨_ | e, read⟩ := written
    · simp only at h
      split at h
      · cases h
      · cases h
        trivial
    · exact isScalar_of_real h
  · cases h

theorem isScalar_of_fraction {written : List UInt8}
    (h : fraction negative written bytes taken = .ok (v, count)) : v.IsScalar := by
  have hplain (h : fraction.plain negative written taken = .ok (v, count)) : v.IsScalar := by
    unfold fraction.plain at h
    split at h
    · cases h
      trivial
    · cases h
  unfold fraction at h
  split at h
  · split at h
    · simp only at h
      split at h
      · cases h
      · cases h
      · split at h
        · split at h
          · exact isScalar_of_exponent h
          · exact isScalar_of_real h
        · exact isScalar_of_real h
    split at h
    · exact isScalar_of_exponent h
    · exact hplain h
  · exact hplain h

theorem isScalar_of_number (h : number negative bytes taken = .ok (v, count)) : v.IsScalar := by
  unfold number at h
  split at h
  · cases h
  split at h
  · split at h
    · split at h
      · cases h
      · exact isScalar_of_fraction h
    · exact isScalar_of_fraction h
  split at h
  · exact isScalar_of_fraction h
  · cases h

/-- **A token by itself writes no array and no object.** -/
theorem isScalar_of_lexeme {b : UInt8} (h : lexeme b bytes = .ok (.scalar v, count)) :
    v.IsScalar := by
  have hscalar {s : Scan Json}
      (h : (s.map fun p => (Lexeme.scalar p.1, p.2)) = .ok (.scalar v, count)) :
      s = .ok (v, count) := by
    obtain ⟨⟨w, n⟩, hs, he⟩ := Uri.map_eq_ok_iff.1 h
    cases he
    exact hs
  unfold lexeme at h
  simp only at h
  split at h
  · rw [eq_of_literal (hscalar h)]
    trivial
  · rw [eq_of_literal (hscalar h)]
    trivial
  · rw [eq_of_literal (hscalar h)]
    trivial
  · split at h <;> cases h
  · exact isScalar_of_number (hscalar h)
  · split at h
    · split at h
      · rename_i hn
        cases h
        exact isScalar_of_number hn
      · cases h
    · cases h

end Scan

/-- A token that writes no array and no object. -/
def Token.IsPlain (t : Token) : Prop :=
  ∀ v, t.lexeme = .ok (.scalar v) → v.IsScalar

theorem Token.isPlain_of_mem_scan {place : Position} {bytes : List UInt8} {t : Token}
    (h : t ∈ Token.scan place bytes) : t.IsPlain := by
  induction hn : bytes.length using Nat.strongRecOn generalizing place bytes with
  | ind n ih =>
    cases bytes with
    | nil =>
      rw [Token.scan] at h
      cases h
    | cons b rest =>
      rw [List.length_cons] at hn
      rw [Token.scan] at h
      split at h
      · exact ih _ (by omega) h rfl
      split at h
      · rename_i lexeme taken hlexeme
        rcases List.mem_cons.1 h with rfl | h
        · intro v hv
          cases hv
          exact Scan.isScalar_of_lexeme hlexeme
        · refine ih _ ?_ h rfl
          rw [List.length_drop]
          omega
      · rw [List.mem_singleton.1 h]
        intro v hv
        cases hv

/-! ## States of the reader -/

/-- Well-formed members under names of their own. -/
def AreWellFormed (members : List (String × Json)) : Prop :=
  (members.map Prod.fst).Nodup ∧ ∀ m ∈ members, m.2.WellFormed

variable {members : List (String × Json)} {outer : List Context} {v : Json} {t : Token}
  {limit : Nat} {s s' : State}

theorem AreWellFormed.reverse (h : AreWellFormed members) :
    (Json.obj members.reverse).WellFormed := by
  refine ⟨?_, wellFormedMembers_iff.2 fun m hm => h.2 m (List.mem_reverse.1 hm)⟩
  rw [List.map_reverse]
  exact List.nodup_reverse.2 h.1

/-- A member in the place of an earlier one keeps names apart. -/
theorem AreWellFormed.put (h : AreWellFormed members) (hv : v.WellFormed) (name : String) :
    AreWellFormed (put name v members) := by
  unfold Json.put
  split
  · refine ⟨?_, fun m hm => ?_⟩
    · have hnames : (members.map fun m => if m.1 == name then (name, v) else m).map Prod.fst =
          members.map Prod.fst := by
        rw [List.map_map]
        refine List.map_congr_left fun m _ => ?_
        rw [Function.comp_apply]
        split
        · rename_i he
          exact (beq_iff_eq.1 he).symm
        · rfl
      rw [hnames]
      exact h.1
    · obtain ⟨m', hm', rfl⟩ := List.mem_map.1 hm
      split
      · exact hv
      · exact h.2 m' hm'
  · rename_i hnew
    refine ⟨List.nodup_cons.2 ⟨fun hm => hnew ?_, h.1⟩, List.forall_mem_cons.2 ⟨hv, h.2⟩⟩
    obtain ⟨m, hm, he⟩ := List.mem_map.1 hm
    exact List.any_eq_true.2 ⟨m, hm, beq_iff_eq.2 he⟩

/-- A container whose finished parts are well-formed. -/
def Context.IsWellFormed : Context → Prop
  | .item before => ∀ v ∈ before, v.WellFormed
  | .member before _ => AreWellFormed before

namespace State

/-- A state whose finished parts are well-formed. -/
def IsWellFormed : State → Prop
  | .value outer | .firstItem outer | .firstName outer => ∀ c ∈ outer, c.IsWellFormed
  | .nextItem items outer | .afterItem items outer =>
    (∀ v ∈ items, v.WellFormed) ∧ ∀ c ∈ outer, c.IsWellFormed
  | .nextName members outer | .colon members _ outer | .afterMember members outer =>
    AreWellFormed members ∧ ∀ c ∈ outer, c.IsWellFormed
  | .complete document => document.WellFormed

theorem isWellFormed_deliver (hv : v.WellFormed) (ho : ∀ c ∈ outer, c.IsWellFormed) :
    (deliver v outer).IsWellFormed := by
  cases outer with
  | nil => exact hv
  | cons c more =>
    obtain ⟨hc, hmore⟩ := List.forall_mem_cons.1 ho
    cases c with
    | item before => exact ⟨List.forall_mem_cons.2 ⟨hv, hc⟩, hmore⟩
    | member before name => exact ⟨AreWellFormed.put hc hv name, hmore⟩

theorem isWellFormed_enter (ht : t.IsPlain) (ho : ∀ c ∈ outer, c.IsWellFormed)
    (h : enter limit outer t = .ok s) : s.IsWellFormed := by
  obtain ⟨lexeme, hlexeme, h⟩ := Uri.bind_eq_ok_iff.1 h
  cases lexeme with
  | scalar v =>
    cases h
    exact isWellFormed_deliver (ht v hlexeme).wellFormed ho
  | str text =>
    cases h
    exact isWellFormed_deliver trivial ho
  | mark =>
    simp only at h
    split at h
    · split at h
      · cases h
      · cases h
        split <;> exact ho
    · cases h

theorem isWellFormed_enterName (hm : AreWellFormed members) (ho : ∀ c ∈ outer, c.IsWellFormed)
    (h : enterName members outer t = .ok s) : s.IsWellFormed := by
  unfold enterName at h
  split at h
  · cases h
  obtain ⟨lexeme, -, h⟩ := Uri.bind_eq_ok_iff.1 h
  cases lexeme with
  | str text =>
    cases h
    exact ⟨hm, ho⟩
  | _ => cases h

/-- **A token keeps the finished parts well-formed.** -/
theorem isWellFormed_step (ht : t.IsPlain) (hs : s.IsWellFormed)
    (h : step limit s t = .ok s') : s'.IsWellFormed := by
  have hnil : AreWellFormed [] := ⟨List.nodup_nil, nofun⟩
  have hwithin {outer : List Context} (c : Context) (hc : c.IsWellFormed)
      (ho : ∀ c ∈ outer, c.IsWellFormed) : ∀ c' ∈ c :: outer, c'.IsWellFormed :=
    List.forall_mem_cons.2 ⟨hc, ho⟩
  cases s with
  | value outer => exact isWellFormed_enter ht hs h
  | firstItem outer =>
    simp only [step] at h
    split at h
    · cases h
      exact isWellFormed_deliver trivial hs
    · exact isWellFormed_enter ht (hwithin (.item []) (fun _ hv => absurd hv List.not_mem_nil) hs) h
  | nextItem items outer =>
    simp only [step] at h
    split at h
    · cases h
    · exact isWellFormed_enter ht (hwithin (.item items) hs.1 hs.2) h
  | afterItem items outer =>
    simp only [step] at h
    split at h
    · cases h
      refine isWellFormed_deliver (wellFormedItems_iff.2 fun v hv => ?_) hs.2
      exact hs.1 v (List.mem_reverse.1 hv)
    split at h
    · cases h
      exact hs
    · cases h
  | firstName outer =>
    simp only [step] at h
    split at h
    · cases h
      exact isWellFormed_deliver hnil.reverse hs
    · exact isWellFormed_enterName hnil hs h
  | nextName members outer =>
    simp only [step] at h
    split at h
    · cases h
    · exact isWellFormed_enterName hs.1 hs.2 h
  | colon members name outer =>
    simp only [step] at h
    split at h
    · cases h
      exact hwithin (.member members name) hs.1 hs.2
    · cases h
  | afterMember members outer =>
    simp only [step] at h
    split at h
    · cases h
      exact isWellFormed_deliver hs.1.reverse hs.2
    split at h
    · cases h
      exact hs
    · cases h
  | complete document => cases h

/-- A run of the reader keeps the finished parts well-formed. -/
theorem isWellFormed_run {tokens : List Token} (ht : ∀ t ∈ tokens, t.IsPlain)
    (hs : s.IsWellFormed) (h : tokens.foldlM (step limit) s = .ok s') : s'.IsWellFormed := by
  induction tokens generalizing s with
  | nil =>
    cases h
    exact hs
  | cons t rest ih =>
    obtain ⟨htoken, hrest⟩ := List.forall_mem_cons.1 ht
    rw [List.foldlM_cons] at h
    obtain ⟨next, hnext, h⟩ := Uri.bind_eq_ok_iff.1 h
    exact ih hrest (isWellFormed_step htoken hs hnext) h

end State

/-- **A document that was read is well-formed**: no object in it repeats a name. -/
theorem wellFormed_of_read {bytes : List UInt8} (h : read bytes = .ok v) : v.WellFormed := by
  obtain ⟨s, hs, h⟩ := Uri.bind_eq_ok_iff.1 h
  have hstart : (State.value []).IsWellFormed := fun _ hc => absurd hc List.not_mem_nil
  have hwf := State.isWellFormed_run (fun t => Token.isPlain_of_mem_scan) hstart hs
  cases s with
  | complete document =>
    cases h
    exact hwf
  | _ => cases h

end Json

/-- The document that a file holds is well-formed. -/
theorem Files.wellFormed_of_loadJson {files : Files} {path : List Char} {document : Json}
    (h : files.loadJson path = .ok document) : document.WellFormed := by
  unfold loadJson at h
  split at h
  · cases h
  · rename_i content _
    cases hread : Json.read content with
    | error fault =>
      rw [hread] at h
      cases h
    | ok d =>
      rw [hread] at h
      cases h
      exact Json.wellFormed_of_read hread

end JsonSchema
