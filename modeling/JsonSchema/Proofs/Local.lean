import JsonSchema.Proofs.Archive
import Mathlib

/-!
# References within a document

A fragment alone is a reference to a place in the document of its base. It is so for every base
without scheme, and for the entries of archives that are references of their own: then it is put
behind the entry, and the locator is read again as it was. Every reference of the program is read
from a text or made of such references, so the locator of an opaque one can be read again.

* `Uri.IsMade`, `Reference.IsMade`: the references of the program.
* `Uri.IsMade.parse_front`: an opaque one is read back without its fragment.
* `Reference.IsMade.resolve`: what references resolve is again such a reference.
* `Reference.resolve_local`: when a fragment alone stays in the document of its base.
-/

namespace JsonSchema

namespace Uri

variable {u v : Uri} {text rest : List Char}

/-! ## References of the program -/

/-- What is read as a URI reference, and what the operations make of it. -/
inductive IsMade : Uri → Prop
  | parse {text : List Char} {u : Uri} (h : parse text = .ok u) : IsMade u
  | withFragment {u : Uri} {fragment : Option (List Char)} (h : IsMade u)
      (hf : IsCleanText (fragment.getD [])) : IsMade (u.withFragment fragment)
  | normalize {u : Uri} (h : IsMade u) : IsMade u.normalize
  | resolve {u v : Uri} (hu : IsMade u) (hv : IsMade v) : IsMade (u.resolve v)

/-- An opaque reference is read back without its fragment. -/
def IsReadBack (u : Uri) : Prop :=
  u.isOpaque → parse (u.withFragment none).toChars = .ok (u.withFragment none)

namespace IsReadBack

theorem of_parse (h : Uri.parse text = .ok u) : u.IsReadBack := fun ho =>
  parse_toChars_of_parse h (isSome_scheme_of_isOpaque ho)

theorem normalize (h : u.IsReadBack) : u.normalize.IsReadBack := by
  intro ho
  rcases opaque_or_url_of_normalize ho with hu | ⟨x, hx⟩
  · rw [normalize_of_isOpaque hu]
    exact h hu
  · exact of_parse (toOption_eq_some.1 hx) ho

/-- What is resolved is the reference itself, or a URL, or it has no scheme. -/
theorem resolve (hv : v.IsReadBack) : (u.resolve v).IsReadBack := by
  unfold Uri.resolve
  split
  · exact hv.normalize
  split
  · simp only
    cases hj : u.toUrl?.bind fun x => ((x.join v.toChars).toOption).bind ofUrl? with
    | none => exact hv.normalize
    | some w =>
      obtain ⟨x, -, hw⟩ := Option.bind_eq_some_iff.1 hj
      obtain ⟨y, -, hw⟩ := Option.bind_eq_some_iff.1 hw
      exact of_parse (toOption_eq_some.1 hw)
  · rename_i hs
    intro ho
    have hsome := isSome_scheme_of_isOpaque ho
    rw [scheme_mergeRelative] at hsome
    exact absurd hsome hs

end IsReadBack

namespace IsMade

theorem isClean (h : u.IsMade) : u.IsClean := by
  induction h with
  | parse h => exact isClean_of_parse h
  | withFragment _ hf ih => exact ih.withFragment hf
  | normalize _ ih => exact ih.normalize
  | resolve _ _ ihu ihv => exact ihu.resolve ihv

theorem isReadBack (h : u.IsMade) : u.IsReadBack := by
  induction h with
  | parse h => exact .of_parse h
  | withFragment _ _ ih => exact ih
  | normalize _ ih => exact ih.normalize
  | resolve _ _ _ ihv => exact ihv.resolve

theorem empty : IsMade .empty :=
  @parse [] _ rfl

end IsMade

/-- Which texts that start with a slash are references: those that name a host, and those without
brackets in front of a query. -/
theorem isReferenceText_slash_iff (hw : IsWritable rest) (hsharp : '#' ∉ rest) :
    IsReferenceText ('/' :: rest) ↔ rest.head? = some '/' ∨ Url.IsOpenText rest := by
  have hcut : schemeCut? ('/' :: rest) = none := rfl
  have hnames (name more : List Char) (h : schemeCut? ('/' :: rest) = some (name, more)) :
      isSchemeName name = true := by
    rw [hcut] at h
    cases h
  have hcount : ('/' :: rest).count '#' ≤ 1 := by
    rw [List.count_cons_of_ne (by decide), List.count_eq_zero_of_not_mem hsharp]
    exact Nat.zero_le 1
  have hhierarchy : hierarchyText ('/' :: rest) = '/' :: rest.takeWhile (!Url.endsPath ·) := by
    rw [hierarchyText_eq, afterScheme, hcut]
    rfl
  have hhost : ['/', '/'] <+: '/' :: rest.takeWhile (!Url.endsPath ·) ↔ rest.head? = some '/' := by
    have hhead (t : List Char) : ['/'] <+: t ↔ t.head? = some '/' := by
      cases t <;> simp [eq_comm]
    rw [List.prefix_cons_inj, hhead, List.head?_takeWhile, Option.filter_eq_some_iff]
    exact and_iff_left_of_imp fun _ => rfl
  rw [isReferenceText_iff, hhierarchy, isWritable_slash_cons, and_iff_right hw,
    and_iff_right hcount, and_iff_right hnames, hhost, IsUnbracketed.cons_iff,
    and_iff_right (by decide)]
  rfl

end Uri

namespace Reference

open Uri (IsReferenceText)

variable {base other r : Reference} {archive rest text : List Char}

/-! ## References -/

/-- A reference of the program: one made of a URI reference of it. All operations on references give
such references again. -/
def IsMade (r : Reference) : Prop :=
  ∃ u : Uri, u.IsMade ∧ ofUri u = r

theorem isMade_empty : empty.IsMade :=
  ⟨.empty, .empty, rfl⟩

theorem isMade_of_parse {text : String} (h : parse text = .ok r) : r.IsMade := by
  obtain ⟨u, hu, rfl⟩ := exists_uri_of_parse h
  exact ⟨u, .parse hu, rfl⟩

namespace IsMade

theorem uri (h : r.IsMade) : r.uri.IsMade := by
  obtain ⟨u, hu, rfl⟩ := h
  unfold ofUri
  simp only
  split
  · exact .empty
  · exact hu.normalize

theorem isNormal (h : r.IsMade) : r.IsNormal := by
  obtain ⟨u, hu, rfl⟩ := h
  exact isNormal_ofUri hu.isClean

theorem toLocator (h : r.IsMade) : r.toLocator.IsMade :=
  ⟨_, @Uri.IsMade.withFragment _ none h.uri nofun, rfl⟩

theorem withPointer (h : r.IsMade) (pointer : List Char) : (r.withPointer pointer).IsMade :=
  ⟨_, @Uri.IsMade.withFragment _ (some _) h.uri (isCleanText_encodeFragment pointer), rfl⟩

/-- What references resolve is a reference of the program, too. -/
theorem resolve (hb : base.IsMade) (ho : other.IsMade) : (base.resolve other).IsMade := by
  unfold Reference.resolve
  split
  · exact ho
  cases ha : resolveInArchive? base other with
  | none => exact ⟨_, hb.uri.resolve ho.uri, rfl⟩
  | some u =>
    rw [resolveInArchive?_eq, Option.bind_eq_some_iff] at ha
    obtain ⟨_, -, hu⟩ := ha
    exact ⟨u, .parse (Uri.toOption_eq_some.1 hu), rfl⟩

/-- The locator of an opaque reference is read as what it was written from. -/
theorem parse_locator (h : base.IsMade) (ho : base.uri.isOpaque) :
    Uri.parse base.locator = .ok (base.uri.withFragment none) :=
  h.uri.isReadBack ho

end IsMade

/-! ## Fragments -/

/-- A reference leads to a fragment in the document of a base. -/
structure StaysIn (r base : Reference) (text : List Char) : Prop where
  locator : r.locator = base.locator
  contains : base.contains r
  contained : r.contains base
  fragment : r.fragment = .ofText (Percent.decode text)

/-- A base in normal form with a fragment leads into its own document. -/
theorem staysIn_ofUri {written : Option (List Char)} (hb : base.uri.IsClean)
    (hw : Uri.IsCleanText (written.getD []))
    (hn : (base.uri.withFragment written).normalize = base.uri.withFragment written) :
    (ofUri (base.uri.withFragment written)).StaysIn base (written.getD []) := by
  obtain ⟨fragment, huri, hf⟩ := exists_uri_ofUri (hb.withFragment hw)
  rw [hn] at huri hf
  have hl : (ofUri (base.uri.withFragment written)).locator = base.locator := by
    rw [locator, huri]
    rfl
  refine ⟨hl, decide_eq_true hl.symm, decide_eq_true hl, ?_⟩
  rw [Reference.fragment, rawFragment, huri]
  exact congrArg (Fragment.ofText <| Percent.decode ·) hf

/-- A fragment stays in the document of a base without scheme. -/
theorem staysIn_of_relative (hb : base.IsNormal) (hs : base.scheme = none) (hr : r.IsLocal text) :
    (base.resolve r).StaysIn base text := by
  obtain ⟨written, hu, rfl, -⟩ := hr.fragment_cases
  rw [resolve_of_isLocal hs hu]
  have hpath : Uri.removeDotSegments base.uri.path = base.uri.path := by
    obtain ⟨u, hclean, rfl⟩ := hb
    obtain ⟨fragment, huri, -⟩ := exists_uri_ofUri hclean
    rw [huri, Uri.normalize_of_scheme_eq_none ((scheme_ofUri_eq_none_iff hclean).1 hs)]
    exact Uri.removeDotSegments_idem _
  refine staysIn_ofUri (isClean_of_isNormal hb)
    (Uri.isCleanText_of_isWritable hr.writable hr.plain) ?_
  rw [Uri.normalize_of_scheme_eq_none (u := base.uri.withFragment written) hs]
  exact congrArg (fun path => { base.uri.withFragment written with path }) hpath

/-- A fragment stays in the document of an entry of an archive. -/
theorem staysIn_of_entry {entry : Uri} (hb : base.IsMade) (ho : base.uri.isOpaque)
    (he : base.entry? = some (archive, entry)) (hs : entry.scheme = none) (hr : r.IsLocal text) :
    (base.resolve r).StaysIn base text := by
  obtain ⟨written, hu, rfl, -⟩ := hr.fragment_cases
  have hclean := hb.uri.isClean
  have hsharp : '#' ∉ base.locator := Uri.notMem_front hclean
  have hread : (Uri.parse (base.locator ++ Uri.part ['#'] written)).toOption =
      some (base.uri.withFragment written) := by
    rw [Uri.toOption_parse_append_part hsharp hr.writable hr.plain, hb.parse_locator ho]
    rfl
  rw [resolve_of_entry hsharp he hs hu, hread, Option.getD_some]
  exact staysIn_ofUri hclean (Uri.isCleanText_of_isWritable hr.writable hr.plain)
    (Uri.normalize_of_isOpaque ho)

theorem entry?_of_cut? {inside : List Char} (ha : base.scheme.any archiveSchemes.contains)
    (hcut : Text.cut? '!' base.locator = some (archive, inside)) :
    base.entry? = (Uri.parse inside).toOption.map (archive, ·) := by
  cases hread : (Uri.parse inside).toOption <;> simp [ha, hcut, hread, entry?]

/-- A fragment stays in the document of an entry exactly if the entry can be read as a reference of
its own; otherwise nothing is put back into the archive. -/
theorem staysIn_archive_iff (hb : base.IsMade) (ho : base.uri.isOpaque)
    (ha : base.scheme.any archiveSchemes.contains)
    (hcut : Text.cut? '!' base.locator = some (archive, '/' :: rest))
    (h : parse (String.ofList ('#' :: text)) = .ok r) :
    ((base.resolve r).StaysIn base text ↔ IsReferenceText ('/' :: rest)) ∧
      (¬IsReferenceText ('/' :: rest) → base.resolve r = r) := by
  have hr := isLocal_of_parse h
  have hentry := entry?_of_cut? ha hcut
  have hkept (hread : ¬IsReferenceText ('/' :: rest)) : base.resolve r = r := by
    refine resolve_of_resolveInArchive?_eq_none ho h hr.scheme ?_
    have hnone : (Uri.parse ('/' :: rest)).toOption = none :=
      Option.eq_none_iff_forall_ne_some.2 fun u hu =>
        hread (Uri.exists_ok_parse_iff.1 ⟨u, Uri.toOption_eq_some.1 hu⟩)
    rw [resolveInArchive?_eq, hentry, hnone]
    rfl
  refine ⟨⟨fun hstays => ?_, fun hread => ?_⟩, hkept⟩
  · by_contra hread
    obtain ⟨written, hu, -, -⟩ := hr.fragment_cases
    have hlocator := hstays.locator
    rw [hkept hread, (Text.cut?_eq_some hcut).1, locator, hu] at hlocator
    exact absurd hlocator.symm (List.append_ne_nil_of_right_ne_nil _ (List.cons_ne_nil _ _))
  · obtain ⟨entry, hparse⟩ := Uri.exists_ok_parse_iff.2 hread
    rw [Uri.toOption_eq_some.2 hparse] at hentry
    exact staysIn_of_entry hb ho hentry (Uri.scheme_of_schemeCut? hparse rfl) hr

/-- **When a fragment alone stays in the document of its base.** It does so for every base without
scheme. For an entry of an archive that starts with a slash it does so exactly if the entry can be
read as a reference of its own: if it goes on with the name of a host, or has no brackets in front
of a query. All entries are such if the archive has no query itself; those that are not resolve
nothing. -/
theorem resolve_local (hb : base.IsMade) (h : parse (String.ofList ('#' :: text)) = .ok r) :
    (base.scheme = none → (base.resolve r).StaysIn base text) ∧
    ∀ archive rest, base.uri.isOpaque → base.scheme.any archiveSchemes.contains →
      Text.cut? '!' base.locator = some (archive, '/' :: rest) →
      ((base.resolve r).StaysIn base text ↔ rest.head? = some '/' ∨ Url.IsOpenText rest) ∧
      ('?' ∉ archive → (base.resolve r).StaysIn base text) ∧
      (¬(base.resolve r).StaysIn base text → base.resolve r = r) := by
  refine ⟨fun hs => staysIn_of_relative hb.isNormal hs (isLocal_of_parse h), ?_⟩
  intro archive rest ho ha hcut
  obtain ⟨hstays, hkept⟩ := staysIn_archive_iff hb ho ha hcut h
  have hgrammar : IsReferenceText base.locator :=
    Uri.exists_ok_parse_iff.1 ⟨_, hb.parse_locator ho⟩
  obtain ⟨scheme, path, rfl, hentry⟩ := exists_isEntry hb.uri.isClean hgrammar ho ha hcut
  have hrest : '#' ∉ rest ∧ Uri.IsWritable rest := by
    have hsharp := Uri.notMem_front hb.uri.isClean
    have hw := (Uri.isReferenceText_iff.1 hgrammar).1
    rw [(Text.cut?_eq_some hcut).1, Uri.isWritable_append_cons (by decide) (by decide) (by decide),
      Uri.isWritable_slash_cons] at hw
    refine ⟨fun hm => hsharp ?_, hw.2⟩
    change '#' ∈ base.locator
    rw [(Text.cut?_eq_some hcut).1]
    exact List.mem_append_right _ (List.mem_cons_of_mem _ (List.mem_cons_of_mem _ hm))
  have hreads := Uri.isReferenceText_slash_iff hrest.2 hrest.1
  refine ⟨hstays.trans hreads, fun hq => hstays.2 (hreads.2 (.inr ?_)), fun hnot => ?_⟩
  · have hopen := hentry.archive.isOpenText (hentry.locator ▸ hgrammar) fun hm =>
      hq (List.mem_append_right _ (List.mem_cons_of_mem _ hm))
    exact hopen.tail (by decide)
  · exact hkept fun hread => hnot (hstays.2 hread)

/-- A host with brackets in an archive that has a query, and a query behind it. -/
def queried : Reference :=
  ⟨⟨some "jar".toList, none, "file:/p/my.jar".toList, some "v!//[::1]/a?b[2]".toList,
    some "old".toList⟩⟩

/-- A pointer with an escape stays in a host of an archive, and in the document of a path that leads
up. -/
theorem resolve_local_queried :
    ∃ up r, parse "../a//b?c" = .ok up ∧ parse "#/x%20y" = .ok r ∧
      parse "jar:file:/p/my.jar?v!//[::1]/a?b[2]#old" = .ok queried ∧
      (up.resolve r).StaysIn up "/x%20y".toList ∧
      (queried.resolve r).StaysIn queried "/x%20y".toList := by
  obtain ⟨up, hup, hs⟩ : ∃ up, parse "../a//b?c" = .ok up ∧ up.scheme = none := ⟨_, by cbv, rfl⟩
  obtain ⟨r, hr⟩ : ∃ r, parse "#/x%20y" = .ok r := ⟨_, by cbv⟩
  have hq : parse "jar:file:/p/my.jar?v!//[::1]/a?b[2]#old" = .ok queried := by cbv
  have hcut : Text.cut? '!' queried.locator =
      some ("jar:file:/p/my.jar?v".toList, "//[::1]/a?b[2]".toList) := by cbv
  obtain ⟨hrelative, -⟩ := resolve_local (isMade_of_parse hup) hr
  obtain ⟨-, harchive⟩ := resolve_local (isMade_of_parse hq) hr
  obtain ⟨hstays, -, -⟩ := harchive _ _ (by decide) (by decide) hcut
  exact ⟨up, r, hup, hr, hq, hrelative hs, hstays.2 (.inl rfl)⟩

/-- A path with brackets in an archive that has a query. -/
def bracketed : Reference :=
  ⟨⟨some "jar".toList, none, "file:/p/my.jar".toList, some "v!/a[1].json".toList, none⟩⟩

/-- **A fragment that leaves the document of its base**: behind the query of the archive the path
may have brackets, but as a reference of its own it may not. -/
theorem not_staysIn_bracketed :
    parse "jar:file:/p/my.jar?v!/a[1].json" = .ok bracketed ∧ bracketed.uri.isOpaque ∧
      bracketed.scheme.any archiveSchemes.contains ∧
      Text.cut? '!' bracketed.locator =
        some ("jar:file:/p/my.jar?v".toList, "/a[1].json".toList) ∧
      ∃ r, parse "#x" = .ok r ∧ ¬(bracketed.resolve r).StaysIn bracketed ['x'] := by
  let r : Reference := ⟨⟨none, none, [], none, some ['x']⟩⟩
  have hlocator : (bracketed.resolve r).locator = [] := by cbv
  refine ⟨by cbv, by decide, by decide, by cbv, r, by cbv, fun hstays => ?_⟩
  have hsame := hstays.locator
  rw [hlocator] at hsame
  exact absurd hsame (by decide)

end Reference

end JsonSchema
