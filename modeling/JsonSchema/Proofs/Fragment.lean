import JsonSchema.Proofs.Anchors
import JsonSchema.Proofs.Url.Fragment
import Mathlib

/-!
# Resolution keeps fragments

The base decides which document a reference leads to, and the reference by itself what it addresses
there: normalizing and resolving may escape a fragment, but what it stands for stays.

* `Uri.Points`: a reference whose fragment stands for a text.
* `Uri.Points.normalize` and `Uri.Points.resolve`: the normal form and a resolved reference do, too.
* `Reference.fragment_resolve`: what a reference of a schema addresses, whatever its base.
-/

namespace JsonSchema

namespace Uri

variable {u w base reference : Uri} {target text : List Char}

/-- A reference whose fragment can be written and stands for a text. -/
structure Points (u : Uri) (target : List Char) : Prop where
  writable : IsWritable (u.fragment.getD [])
  decoded : Percent.decode (u.fragment.getD []) = target

theorem Points.congr (h : u.Points target) (hf : w.fragment = u.fragment) : w.Points target :=
  ⟨by rw [hf]; exact h.writable, by rw [hf]; exact h.decoded⟩

theorem fragment_of_parse (h : parse text = .ok u) :
    u.fragment = Url.afterSharp? text ∧ IsWritable (u.fragment.getD []) := by
  obtain ⟨hw, -, w, -, rfl⟩ := parse_eq_ok_iff.1 h
  exact ⟨rfl, (isWritable_splitOptional hw).2⟩

theorem afterSharp?_toChars (h : u.IsClean) : Url.afterSharp? u.toChars = u.fragment := by
  have hsharp : '#' ∉ (u.withFragment none).toChars := fun hm => (h.chars _ hm).2 rfl
  cases hf : u.fragment with
  | none =>
    rw [withFragment_self hf] at hsharp
    exact Url.afterSharp?_of_notMem hsharp
  | some f =>
    have hself : u.withFragment (some f) = u := by rw [← hf]; rfl
    rw [← hself, toChars_withFragment_some]
    exact Url.afterSharp?_append_cons hsharp f

theorem IsClean.lt_of_mem (h : u.IsClean) : ∀ c ∈ u.toChars, 0x20 < c.toNat := by
  have hbare : ∀ c ∈ (u.withFragment none).toChars, 0x20 < c.toNat := fun c hc =>
    (of_isForbidden (h.chars c hc).1).1
  have hfragment : ∀ c ∈ u.fragment.getD [], 0x20 < c.toNat := fun c hc =>
    (of_isForbidden (h.fragment c hc).1).1
  cases hf : u.fragment with
  | none => rwa [withFragment_self hf] at hbare
  | some f =>
    have hself : u.withFragment (some f) = u := by rw [← hf]; rfl
    rw [hf] at hfragment
    rw [← hself, toChars_withFragment_some]
    exact List.forall_mem_append.2 ⟨hbare, List.forall_mem_cons.2 ⟨by decide, hfragment⟩⟩

/-- A URL that is read from a reference stands for what the reference does. -/
theorem Points.of_reads {x : Url} (h : u.Points target) (hu : u.IsClean)
    (hx : Url.Reads u.toChars x) (hw : ofUrl? x = some w) : w.Points target := by
  obtain ⟨hfragment, hwritable⟩ := fragment_of_parse (toOption_eq_some.1 hw)
  rw [hx.plain.afterSharp?_toChars, hx.fragment, afterSharp?_toChars hu] at hfragment
  refine ⟨hwritable, ?_⟩
  rw [hfragment]
  have hdecoded := h.decoded
  have hescaped := Percent.decode_encode_of_isWritable h.writable
  cases hf : u.fragment with
  | none => rwa [hf] at hdecoded
  | some f =>
    rw [hf] at hdecoded hescaped
    exact hescaped.trans hdecoded

theorem reads_of_toUrl? {x : Url} (h : u.IsClean) (hx : u.toUrl? = some x) :
    Url.Reads u.toChars x := by
  have hbase : ∀ b, (none : Option Url) = some b → b.IsPlain := fun _ hb => by cases hb
  exact .of_parseWith hbase h.lt_of_mem (toOption_eq_some.1 hx)

/-- The normal form stands for what the reference does. -/
theorem Points.normalize (h : u.Points target) (hu : u.IsClean) : u.normalize.Points target := by
  have hrelative : { u with path := removeDotSegments u.path }.Points target := h.congr rfl
  unfold Uri.normalize
  split
  · exact h
  simp only
  split
  · cases hw : u.toUrl?.bind ofUrl? with
    | none => exact hrelative
    | some w =>
      obtain ⟨x, hx, hw⟩ := Option.bind_eq_some_iff.1 hw
      exact h.of_reads hu (reads_of_toUrl? hu hx) hw
  · exact hrelative

theorem fragment_mergeRelative (base reference : Uri) :
    (mergeRelative base reference).fragment = reference.fragment := by
  unfold mergeRelative
  split
  · rfl
  split <;> rfl

/-- What is resolved stands for what the reference does. -/
theorem Points.resolve (h : reference.Points target) (hb : base.IsClean) (hr : reference.IsClean) :
    (base.resolve reference).Points target := by
  have hnormal := h.normalize hr
  unfold Uri.resolve
  split
  · exact hnormal
  split
  · simp only
    cases hw : base.toUrl?.bind fun url =>
        ((url.join reference.toChars).toOption).bind ofUrl? with
    | none => exact hnormal
    | some w =>
      obtain ⟨url, hurl, hw⟩ := Option.bind_eq_some_iff.1 hw
      obtain ⟨x, hx, hw⟩ := Option.bind_eq_some_iff.1 hw
      have hplain := (reads_of_toUrl? hb hurl).plain
      refine h.of_reads hr (.of_parseWith ?_ hr.lt_of_mem (toOption_eq_some.1 hx)) hw
      rintro _ ⟨⟩
      exact hplain
  · exact h.congr (fragment_mergeRelative base reference)

/-- What is read after a text without `#` stands for what it does by itself. -/
theorem Points.of_parse_append {before : List Char} (h : u.Points target) (hu : u.IsClean)
    (hb : '#' ∉ before) (hw : parse (before ++ u.toChars) = .ok w) : w.Points target := by
  refine h.congr ?_
  rw [(fragment_of_parse hw).1, Url.afterSharp?_append hb, afterSharp?_toChars hu]

end Uri

namespace Reference

variable {base other r : Reference} {target : List Char}

theorem points_ofUri {u : Uri} (h : u.Points target) (hu : u.IsClean) :
    (ofUri u).uri.Points target := by
  have hnormal := h.normalize hu
  unfold ofUri
  simp only
  split
  · rename_i hchars
    -- an empty reference or a lone `#` has no fragment or an empty one
    have hempty : u.normalize.fragment.getD [] = [] := by
      rcases hchars with hnil | hsharp
      · rw [Uri.eq_empty_of_toChars_eq_nil hnil]
        rfl
      · have hafter := Uri.afterSharp?_toChars hu.normalize
        rw [hsharp] at hafter
        rw [← hafter]
        rfl
    refine ⟨trivial, ?_⟩
    rw [← hnormal.decoded, hempty]
    rfl
  · exact hnormal

theorem points_resolve (h : other.uri.Points target) (hb : base.IsNormal) (ho : other.IsNormal) :
    (base.resolve other).uri.Points target := by
  have hbase := isClean_of_isNormal hb
  have hother := isClean_of_isNormal ho
  unfold Reference.resolve
  split
  · exact h
  cases ha : resolveInArchive? base other with
  | none => exact points_ofUri (h.resolve hbase hother) (hbase.resolve hother)
  | some w =>
    rw [resolveInArchive?_eq] at ha
    obtain ⟨⟨archive, entry⟩, he, hw⟩ := Option.bind_eq_some_iff.1 ha
    obtain ⟨-, written, hlocator, hentry⟩ := entry?_eq_some he
    have hsharp : '#' ∉ archive ++ ['!'] := by
      intro hm
      have hmem : '#' ∈ base.locator := by
        rw [hlocator, List.append_cons]
        exact List.mem_append_left _ hm
      exact (hbase.chars _ hmem).2 rfl
    have hclean := Uri.isClean_of_parse hentry
    have hread : (Uri.parse (archive ++ ['!'] ++ (entry.resolve other.uri).toChars)).toOption =
        some w := by
      rw [← hw, List.append_assoc]
      rfl
    have hpoints := (h.resolve hclean hother).of_parse_append (hclean.resolve hother) hsharp
      (Uri.toOption_eq_some.1 hread)
    exact points_ofUri hpoints (Uri.isClean_of_toOption_parse hread)

/-- A reference that a schema writes is in its normal form, and its fragment can be written. -/
theorem exists_points_of_ofJson {value : Json} (h : ofJson value = .ok r) :
    r.IsNormal ∧ ∃ target, r.uri.Points target := by
  unfold ofJson at h
  split at h
  · obtain ⟨u, hu, rfl⟩ := exists_uri_of_parse h
    have hclean := Uri.isClean_of_parse hu
    exact ⟨isNormal_ofUri hclean, _,
      points_ofUri ⟨(Uri.fragment_of_parse hu).2, rfl⟩ hclean⟩
  · cases h
    exact ⟨isNormal_empty, _, trivial, rfl⟩

/-- **A reference addresses the same within a document, whatever base it is resolved against.** -/
theorem fragment_resolve {value : Json} (hb : base.IsNormal) (h : ofJson value = .ok other) :
    (base.resolve other).fragment = other.fragment := by
  obtain ⟨ho, target, hp⟩ := exists_points_of_ofJson h
  unfold Reference.fragment rawFragment
  rw [(points_resolve hp hb ho).decoded, hp.decoded]

end Reference

end JsonSchema
