import JsonSchema.Lint
import JsonSchema.Proofs.Closed
import JsonSchema.Proofs.Nodes
import JsonSchema.Proofs.Reader
import Mathlib

/-!
# What a lint says about references

A lint looks for references by the names of members: it leaves out whatever stands below a member
called `enum` or `default`. A check goes by the places of schemas, and a property or a definition
may have these names. So a lint reports the references within a document that lead nowhere, unless
such a name is on the way.

* `Lint.mem_referenceFaults_iff`: where references are looked for.
* `Lint.exists_dangling_below_iff`: when a lint finds that a reference leads nowhere.
* `Registry.exists_find_dangling_iff`: when the look-up of the reference does.
* `Files.reports_dangling_iff`: the reports on a file, and the look-ups in its document.
-/

namespace JsonSchema

/-! ## Names on the way -/

namespace Lint

variable {document v w : Json} {pointer path : List Char} {tokens : List (List Char)}
  {items : List Json} {members : List (String × Json)} {fault : List Char × Cause}

/-- Names below which references are looked for. -/
def IsSearched (token : List Char) : Prop :=
  token ≠ "enum".toList ∧ token ≠ "default".toList

theorem isSearched_toDigits (i : Nat) : IsSearched (Nat.toDigits 10 i) := by
  have hdigit {c : Char} {rest : List Char} (hc : CharClass.isAsciiDigit c = false) :
      Nat.toDigits 10 i ≠ c :: rest := by
    intro he
    have := isAsciiDigit_of_mem_toDigits (he ▸ List.mem_cons_self)
    rw [hc] at this
    cases this
  exact ⟨hdigit (by decide), hdigit (by decide)⟩

theorem mem_itemFaults_iff {i : Nat} : fault ∈ itemFaults document pointer i items ↔
    ∃ k item, items[k]? = some item ∧
      fault ∈ referenceFaults document (Pointer.item pointer (i + k)) item := by
  induction items generalizing i with
  | nil => simp [itemFaults]
  | cons item rest ih =>
    rw [itemFaults, List.mem_append, ih]
    constructor
    · rintro (h | ⟨k, other, hk, h⟩)
      · exact ⟨0, item, rfl, h⟩
      · refine ⟨k + 1, other, hk, ?_⟩
        rwa [Nat.add_comm k 1, ← Nat.add_assoc]
    · rintro ⟨k, other, hk, h⟩
      cases k with
      | zero =>
        cases hk
        exact .inl h
      | succ k =>
        refine .inr ⟨k, other, hk, ?_⟩
        rwa [Nat.add_assoc, Nat.add_comm 1 k]

theorem mem_memberFaults_iff : fault ∈ memberFaults document pointer members ↔
    ∃ name value, (name, value) ∈ members ∧ IsSearched name.toList ∧
      fault ∈ referenceFaults document (Pointer.child pointer name.toList) value := by
  induction members with
  | nil => simp [memberFaults]
  | cons member rest ih =>
    obtain ⟨name, value⟩ := member
    have hname : ¬(name = "enum" ∨ name = "default") ↔ IsSearched name.toList := by
      rw [not_or, IsSearched, ne_eq, ne_eq, String.toList_inj, String.toList_inj]
    rw [memberFaults, List.mem_append, ih]
    constructor
    · rintro (h | ⟨other, w, hm, h⟩)
      · split at h
        · cases h
        · rename_i hn
          exact ⟨name, value, List.mem_cons_self, hname.1 hn, h⟩
      · exact ⟨other, w, List.mem_cons_of_mem _ hm, h⟩
    · rintro ⟨other, w, hm, hs, h⟩
      rcases List.mem_cons.1 hm with he | hm
      · cases he
        rw [if_neg (hname.2 hs)]
        exact .inl h
      · exact .inr ⟨other, w, hm, hs, h⟩

/-- **Where references are looked for**: wherever names lead that are neither `enum` nor
`default`. -/
theorem mem_referenceFaults_iff : fault ∈ referenceFaults document pointer v ↔
    ∃ tokens w, v.Leads tokens w ∧ (∀ token ∈ tokens, IsSearched token) ∧
      fault ∈ ownFault document (tokens.foldl Pointer.child pointer) w := by
  constructor
  · intro h
    induction hn : v.size using Nat.strongRecOn generalizing pointer v with
    | ind n ih =>
      cases v with
      | obj members =>
        rw [referenceFaults, List.mem_append, mem_memberFaults_iff] at h
        rcases h with h | ⟨name, value, hm, hs, h⟩
        · exact ⟨[], _, .here _, nofun, h⟩
        · have hsize : value.size < n := by
            have : value.size ≤ _ := Json.size_le_sizeMembers hm
            rw [← hn, Json.size]
            omega
          obtain ⟨tokens, w, hw, ht, h⟩ := ih _ hsize h rfl
          exact ⟨_, w, .member hm hw, List.forall_mem_cons.2 ⟨hs, ht⟩, h⟩
      | arr items =>
        rw [referenceFaults, mem_itemFaults_iff] at h
        obtain ⟨i, item, hi, h⟩ := h
        have hsize : item.size < n := by
          have := Json.size_le_sizeItems (List.mem_of_getElem? hi)
          rw [← hn, Json.size]
          omega
        rw [Nat.zero_add, Pointer.item_eq_child] at h
        obtain ⟨tokens, w, hw, ht, h⟩ := ih _ hsize h rfl
        exact ⟨_, w, .item hi hw, List.forall_mem_cons.2 ⟨isSearched_toDigits i, ht⟩, h⟩
      | _ => cases h
  · rintro ⟨tokens, w, hw, ht, h⟩
    induction hw generalizing pointer with
    | here v =>
      cases v with
      | obj members =>
        rw [referenceFaults]
        exact List.mem_append_left _ h
      | _ => cases h
    | member hm _ ih =>
      obtain ⟨hs, ht⟩ := List.forall_mem_cons.1 ht
      rw [referenceFaults, List.mem_append, mem_memberFaults_iff]
      exact .inr ⟨_, _, hm, hs, ih ht h⟩
    | item hi _ ih =>
      obtain ⟨-, ht⟩ := List.forall_mem_cons.1 ht
      rw [referenceFaults, mem_itemFaults_iff]
      refine ⟨_, _, hi, ?_⟩
      rw [Nat.zero_add, Pointer.item_eq_child]
      exact ih ht h

/-! ## Reports -/

/-- The reports that a reference leads nowhere. -/
theorem mem_ownFault_iff {reference : String} :
    (path, .dangling reference) ∈ ownFault document pointer v ↔
      path = pointer ++ "/$ref".toList ∧ v.get? "$ref" = some (.str reference) ∧
        ∃ r, Reference.parse reference = .ok r ∧ r.locator = [] ∧
          (r.fragment.resolve? document).isNone := by
  have hfault (text : String) : referenceFault document text = some (.dangling reference) ↔
      text = reference ∧ ∃ r, Reference.parse reference = .ok r ∧ r.locator = [] ∧
        (r.fragment.resolve? document).isNone := by
    unfold referenceFault
    cases hp : Reference.parse text with
    | error cause =>
      refine ⟨nofun, ?_⟩
      rintro ⟨rfl, r, hr, -⟩
      rw [hp] at hr
      cases hr
    | ok r =>
      simp only
      split
      · rename_i h
        constructor
        · rintro ⟨⟩
          exact ⟨rfl, r, hp, h⟩
        · rintro ⟨rfl, -⟩
          rfl
      · rename_i h
        refine ⟨nofun, ?_⟩
        rintro ⟨rfl, r', hr', h'⟩
        rw [hp] at hr'
        cases hr'
        exact absurd h' h
  unfold ownFault
  split
  · rename_i text hget
    rw [hget, List.mem_map]
    constructor
    · rintro ⟨cause, hcause, he⟩
      cases he
      obtain ⟨rfl, hr⟩ := (hfault _).1 (Option.mem_toList.1 hcause)
      exact ⟨rfl, rfl, hr⟩
    · rintro ⟨rfl, ht, hr⟩
      cases ht
      exact ⟨_, Option.mem_toList.2 ((hfault _).2 ⟨rfl, hr⟩), rfl⟩
  · rename_i hget
    refine ⟨nofun, ?_⟩
    rintro ⟨-, h, -⟩
    exact absurd h (hget reference)

/-- The diagnostics of a reference that leads nowhere, by their code. -/
theorem exists_dangling_iff {file : List Char} :
    (∃ d ∈ diagnose file document, d.code = "E003" ∧ d.path = path) ↔
      ∃ reference, (path, .dangling reference) ∈ referenceFaults document [] document := by
  have hcause (d : Diagnostic) (hd : d.code = "E003") :
      ∃ reference, d.cause = .dangling reference := by
    obtain ⟨file, path, cause⟩ := d
    cases cause with
    | dangling reference => exact ⟨reference, rfl⟩
    | finding f =>
      unfold Diagnostic.code at hd
      simp only at hd
      split at hd <;> exact absurd hd (by decide)
    | unloadable cause => exact absurd (show "E001" = "E003" from hd) (by decide)
    | badReference cause => exact absurd (show "E004" = "E003" from hd) (by decide)
  constructor
  · rintro ⟨d, hd, hcode, rfl⟩
    obtain ⟨reference, hcause⟩ := hcause d hcode
    rcases List.mem_append.1 hd with hd | hd
    · obtain ⟨f, -, rfl⟩ := List.mem_map.1 hd
      cases hcause
    · obtain ⟨fault, hf, rfl⟩ := List.mem_map.1 hd
      exact ⟨reference, hcause ▸ hf⟩
  · rintro ⟨reference, h⟩
    exact ⟨_, List.mem_append_right _ (List.mem_map.2 ⟨_, h, rfl⟩), rfl, rfl⟩

end Lint

/-! ## Look-ups -/

/-- A fragment that locates something leads to a value there. -/
theorem Fragment.resolve?_isNone_iff {f : Fragment} {d : Json} (hd : d.WellFormed) :
    (f.resolve? d).isNone ↔ f.locate? d = none := by
  rw [Option.isNone_iff_eq_none, resolve?]
  cases h : f.locate? d with
  | none => exact iff_of_true rfl rfl
  | some place =>
    obtain ⟨v, hv⟩ := exists_at?_of_locate? hd h
    rw [Option.bind_some, hv]
    exact iff_of_false nofun nofun

/-- A reference without locator is a fragment alone. -/
theorem Reference.isLocal_of_locator {text : String} {r : Reference} (h : parse text = .ok r)
    (hl : r.locator = []) : r.IsLocal r.rawFragment := by
  have hjson : ofJson (.str text) = .ok r := h
  obtain ⟨hnormal, target, hpoints⟩ := exists_points_of_ofJson hjson
  have huri : r.uri = .withFragment .empty r.uri.fragment := by
    rw [← Uri.eq_empty_of_toChars_eq_nil hl]
    rfl
  refine ⟨hpoints.writable, fun hm => ((isClean_of_isNormal hnormal).fragment _ hm).2 rfl, ?_⟩
  rw [rawFragment]
  cases hf : r.uri.fragment with
  | some f => exact .inl (by rw [huri, hf]; rfl)
  | none => exact .inr ⟨rfl, by rw [huri, hf]; rfl⟩

theorem Pointer.tokens?_spelled (names : List (List Char)) :
    tokens? (names.foldl child []) = some names :=
  tokens?_foldl_child (rfl : tokens? [] = some []) names

/-- **When a lint looks up a reference and finds nothing**: names lead to the reference that are
searched, and its fragment locates nothing. -/
theorem Lint.exists_dangling_below_iff {document v : Json} {tokens : List (List Char)}
    {text : String} {r : Reference} (hw : document.WellFormed) (hv : document.Leads tokens v)
    (written : v.get? "$ref" = some (.str text)) (parsed : Reference.parse text = .ok r)
    (within : r.locator = []) :
    (∃ reference, (tokens.foldl Pointer.child [] ++ "/$ref".toList, .dangling reference) ∈
        referenceFaults document [] document) ↔
      r.fragment.locate? document = none ∧ ∀ token ∈ tokens, IsSearched token := by
  constructor
  · rintro ⟨reference, h⟩
    obtain ⟨names, w, hnames, hsearched, h⟩ := mem_referenceFaults_iff.1 h
    obtain ⟨hpath, hget, r', hr', -, hnone⟩ := mem_ownFault_iff.1 h
    -- Names are told from the pointer that spells them.
    have hsame : tokens = names := by
      have h := congrArg Pointer.tokens? (List.append_cancel_right hpath)
      rw [Pointer.tokens?_spelled, Pointer.tokens?_spelled] at h
      exact Option.some.inj h
    subst hsame
    rw [← Json.walk?_eq_some_iff hw] at hv hnames
    rw [hv] at hnames
    cases hnames
    rw [written] at hget
    cases hget
    rw [parsed] at hr'
    cases hr'
    exact ⟨(Fragment.resolve?_isNone_iff hw).1 hnone, hsearched⟩
  · rintro ⟨hnone, hsearched⟩
    refine ⟨text, mem_referenceFaults_iff.2 ⟨tokens, v, hv, hsearched, ?_⟩⟩
    exact mem_ownFault_iff.2
      ⟨rfl, written, r, parsed, within, (Fragment.resolve?_isNone_iff hw).2 hnone⟩

namespace Registry

variable {g : Registry} {n q r : Reference} {d : Json} {text : String}

/-- A look-up in a document that is kept leads nowhere exactly if the fragment locates nothing. -/
theorem dangles_iff (hc : g.cached? n = some (.ok d)) (hq : q.toLocator = n) :
    (∃ r, (g.getSchema q).1 = .error (.dangling r)) ↔ q.fragment.locate? d = none := by
  rw [getSchema_fst, hq, document_of_cached? hc]
  change (∃ r, nodeOf q d = .error (.dangling r)) ↔ _
  unfold nodeOf
  cases q.fragment.locate? d with
  | none => exact iff_of_true ⟨q, rfl⟩ rfl
  | some place => exact iff_of_false nofun nofun

/-- **When following a reference finds nothing**, in a nameless document without `id` members. -/
theorem exists_find_dangling_iff (hc : g.cached? .empty = some (.ok d))
    (nameless : d.Every fun name _ => name ≠ "id") (parsed : Reference.parse text = .ok r)
    (within : r.locator = []) (place : List Char) :
    (∃ q, (g.find (.of .empty d place) (.referenced (.str text))).1 = .error (.dangling q)) ↔
      r.fragment.locate? d = none := by
  have hleads := Reference.LeadsTo.of_relative Reference.isNormal_empty rfl
    (Reference.isLocal_of_locator parsed within)
  have hlocate : (SchemaNode.of .empty d place).locate (.referenced (.str text)) =
      .ok (Reference.empty.resolve r) := by
    rw [SchemaNode.locate, Reference.ofJson, parsed, SchemaNode.of,
      Reference.scope_of_every nameless]
    rfl
  rw [find, hlocate]
  refine (dangles_iff hc hleads.toLocator).trans ?_
  rw [hleads.fragment]
  rfl

end Registry

namespace Files

open Lint

variable {files : Files} {file place : List Char} {document v : Json} {g : Registry}
  {text : String} {r : Reference}

/-- **Which references within a document a lint reports.** -/
theorem reports_dangling_iff (base : List Char) (loaded : files.loadJson file = .ok document)
    (accepted : Vocabulary.standard.accepts document)
    (nameless : document.Every fun name _ => name ≠ "id")
    (visited : (place, v) ∈ Vocabulary.standard.positions document)
    (written : v.get? "$ref" = some (.str text)) (parsed : Reference.parse text = .ok r)
    (within : r.locator = []) (standard : g.vocabulary = .standard) :
    ∃ s, ((g.register .empty document).2.getSchema (Reference.empty.withPointer place)).1 = .ok s ∧
      s.raw = v ∧ s.pointer = place ∧
      ((∃ d ∈ (files.lintFile file base).diagnostics,
          d.code = "E003" ∧ d.path = place ++ "/$ref".toList) ↔
        (∃ q, ((g.register .empty document).2.find s (.referenced (.str text))).1 =
          .error (.dangling q)) ∧
        ∀ token ∈ (Pointer.tokens? place).getD [],
          token ≠ "enum".toList ∧ token ≠ "default".toList) := by
  have hw := wellFormed_of_loadJson loaded
  obtain ⟨tokens, rfl, hwalk⟩ :=
    Vocabulary.exists_walk accepted hw (Vocabulary.root_mem_positions _ _) visited
  have hat : document.at? (tokens.foldl Pointer.child []) = some v :=
    (Json.at?_foldl_child (Json.at?_nil document) tokens).trans hwalk.leads
  have hregistered : (g.register .empty document).1 = .ok () := by
    rw [Registry.register_fst, Registry.checked, standard, if_pos accepted]
    rfl
  have hc : (g.register .empty document).2.cached? .empty = some (.ok document) :=
    Registry.cached?_register_self hregistered
  have hdiagnostics : (files.lintFile file base).diagnostics = diagnose file document := by
    rw [lintFile, loaded]
  refine ⟨_, congrArg Prod.fst (Registry.getSchema_withPointer Reference.isStable_empty hc hat),
    SchemaNode.raw_of_at? _ hat, rfl, ?_⟩
  rw [hdiagnostics, exists_dangling_iff, Pointer.tokens?_spelled, Option.getD_some,
    exists_dangling_below_iff hw ((Json.walk?_eq_some_iff hw).1 hwalk.leads) written parsed within,
    Registry.exists_find_dangling_iff hc nameless parsed within]
  rfl

/-- A document in which the property `name` refers to a place that is not there. -/
def dangling (name : String) : Json :=
  .obj [("properties", .obj [(name, .obj [("$ref", .str "#/nope")])])]

/-- A file system with one file, `s.json`. -/
def oneFile (text : String) : Files :=
  ⟨.directory [("s.json", .file (Utf8.encode text.toList))], []⟩

/-- The document with a property `a`, in a file. -/
def danglingProperty : Files :=
  oneFile "\x7b\"properties\":\x7b\"a\":\x7b\"$ref\":\"#/nope\"\x7d\x7d\x7d"

/-- The document with a property `default`, in a file. -/
def danglingDefault : Files :=
  oneFile "\x7b\"properties\":\x7b\"default\":\x7b\"$ref\":\"#/nope\"\x7d\x7d\x7d"

theorem reports_dangling_property :
    (∃ d ∈ (danglingProperty.lintFile "s.json".toList []).diagnostics,
      d.code = "E003" ∧ d.path = "/properties/a/$ref".toList) ∧
    ∃ s, ((Registry.single (dangling "a")).2.getSchema
        (Reference.empty.withPointer "/properties/a".toList)).1 = .ok s ∧
      ∃ q, ((Registry.single (dangling "a")).2.find s (.referenced (.str "#/nope"))).1 =
        .error (.dangling q) := by
  have hloaded : danglingProperty.loadJson "s.json".toList = .ok (dangling "a") := by
    cbv
  have hvisited : ("/properties/a".toList, .obj [("$ref", .str "#/nope")]) ∈
      Vocabulary.standard.positions (dangling "a") := by
    have hpositions : Vocabulary.standard.positions (dangling "a") =
        [([], dangling "a"), ("/properties/a".toList, .obj [("$ref", .str "#/nope")])] := by
      cbv
    rw [hpositions]
    exact List.mem_cons_of_mem _ List.mem_cons_self
  have hparse : Reference.parse "#/nope" =
      .ok ⟨⟨none, none, [], none, some "/nope".toList⟩⟩ := by
    cbv
  obtain ⟨s, hs, -, -, hreports⟩ :=
    reports_dangling_iff [] (g := ⟨[], .standard, [], []⟩) hloaded (by cbv)
      (by simp [dangling, Json.Every, Json.EveryMember]) hvisited rfl hparse rfl rfl
  have hnode : ((Registry.single (dangling "a")).2.getSchema
      (Reference.empty.withPointer "/properties/a".toList)).1 =
        .ok (.of .empty (dangling "a") "/properties/a".toList) := by
    cbv
  obtain rfl := Except.ok.inj (hnode.symm.trans hs)
  have hdangles : ((Registry.single (dangling "a")).2.find
      (.of .empty (dangling "a") "/properties/a".toList) (.referenced (.str "#/nope"))).1 =
        .error (.dangling ⟨⟨none, none, [], none, some "/nope".toList⟩⟩) := by
    cbv
  refine ⟨hreports.2 ⟨⟨_, hdangles⟩, ?_⟩, _, hs, _, hdangles⟩
  have htokens : (Pointer.tokens? "/properties/a".toList).getD [] =
      ["properties".toList, "a".toList] := by
    cbv
  rw [htokens]
  decide

/-- **A dangling reference of a property called `default` is not reported**, though the check
visits the property as a schema. -/
theorem not_reported_default :
    danglingDefault.loadJson "s.json".toList = .ok (dangling "default") ∧
    Vocabulary.standard.accepts (dangling "default") ∧
    ((dangling "default").Every fun name _ => name ≠ "id") ∧
    ("/properties/default".toList, .obj [("$ref", .str "#/nope")]) ∈
      Vocabulary.standard.positions (dangling "default") ∧
    (danglingDefault.lintFile "s.json".toList []).diagnostics = [] ∧
    ∃ s q, ((Registry.single (dangling "default")).2.getSchema
        (Reference.empty.withPointer "/properties/default".toList)).1 = .ok s ∧
      ((Registry.single (dangling "default")).2.find s (.referenced (.str "#/nope"))).1 =
        .error (.dangling q) := by
  have hpositions : Vocabulary.standard.positions (dangling "default") =
      [([], dangling "default"),
        ("/properties/default".toList, .obj [("$ref", .str "#/nope")])] := by
    cbv
  have hnode : ((Registry.single (dangling "default")).2.getSchema
      (Reference.empty.withPointer "/properties/default".toList)).1 =
        .ok (.of .empty (dangling "default") "/properties/default".toList) := by
    cbv
  have hdangles : ((Registry.single (dangling "default")).2.find
      (.of .empty (dangling "default") "/properties/default".toList)
        (.referenced (.str "#/nope"))).1 =
          .error (.dangling ⟨⟨none, none, [], none, some "/nope".toList⟩⟩) := by
    cbv
  refine ⟨by cbv, by cbv, by simp [dangling, Json.Every, Json.EveryMember], ?_, by cbv, _, _,
    hnode, hdangles⟩
  rw [hpositions]
  exact List.mem_cons_of_mem _ List.mem_cons_self

end Files

end JsonSchema
