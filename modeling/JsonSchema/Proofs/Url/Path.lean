import JsonSchema.Proofs.DotSegments
import JsonSchema.Proofs.Percent
import JsonSchema.Url
import Mathlib

/-!
# Paths of URLs are in their final form

* `IsPath`: the paths that `Url.buildPath` builds from texts without bars.
* `isPath_buildPath`: every such path is one of them.
* `buildPath_of_isPath`: a path of that form is built from its own text.
-/

namespace JsonSchema.Url

variable {special file : Bool} {kind : SchemeKind} {piece path text : List Char}
  {kept pieces : List (List Char)}

/-! ## Segments -/

/-- A segment that no reading changes. -/
structure IsPiece (special : Bool) (piece : List Char) : Prop where
  stays : ∀ c ∈ piece, Percent.Stays escapedInPath c
  slash : ∀ c ∈ piece, isSlash special c = false
  bar : '|' ∉ piece
  dot : isDot piece = false
  dotDot : isDotDot piece = false

/-- The segments of the path of a file start with one that is not empty, or are an empty one. -/
def StartsFile (pieces : List (List Char)) : Prop :=
  pieces.head? = some [] → pieces = [[]]

/-- A path in its final form. -/
def IsPath (kind : SchemeKind) (path : List Char) : Prop :=
  ∃ pieces, path = '/' :: Text.join '/' pieces ∧ pieces ≠ [] ∧
    (∀ p ∈ pieces, IsPiece kind.isSpecial p) ∧ (kind = .file → StartsFile pieces)

theorem isPiece_nil (special : Bool) : IsPiece special [] where
  stays := nofun
  slash := nofun
  bar := nofun
  dot := rfl
  dotDot := rfl

/-- Only a drive with a bar changes. -/
theorem keepSegment_of_notMem (h : '|' ∉ piece) : keepSegment file kept piece = piece := by
  unfold keepSegment
  split
  · rename_i hd
    obtain ⟨-, hd⟩ := Bool.and_eq_true_iff.1 hd
    unfold isDrive at hd
    split at hd
    · rename_i c d _
      have hbar : d ≠ '|' := fun he => h (by simp [he])
      have hcolon : d = ':' := by simpa [hbar] using (Bool.and_eq_true_iff.1 hd).2
      rw [hcolon]
      rfl
    · cases hd
  · rfl

/-- Segments in their final form are all kept. -/
theorem pathFrom_of_isPiece (hne : pieces ≠ []) (h : ∀ p ∈ pieces, IsPiece special p) :
    pathFrom file kept pieces = kept.reverse ++ pieces := by
  induction pieces generalizing kept with
  | nil => exact absurd rfl hne
  | cons p rest ih =>
    obtain ⟨hp, hrest⟩ := List.forall_mem_cons.1 h
    cases rest with
    | nil => simp [pathFrom, hp.dot, hp.dotDot, keepSegment_of_notMem hp.bar]
    | cons next more =>
      rw [pathFrom, if_neg (by simp [hp.dotDot]), if_neg (by simp [hp.dot]),
        keepSegment_of_notMem hp.bar, ih (by simp) hrest]
      simp

theorem mem_of_mem_dropSegment (h : piece ∈ dropSegment kept) : piece ∈ kept := by
  unfold dropSegment at h
  split at h
  · split at h
    · exact h
    · exact List.mem_cons_of_mem _ h
  · cases h

/-- What holds of the empty segment and of every segment that is kept holds of the whole path. -/
theorem forall_mem_pathFrom {P : List Char → Prop} (hnil : P []) (hkept : ∀ p ∈ kept, P p)
    (h : ∀ p ∈ pieces, isDot p = false → isDotDot p = false →
      ∀ kept, P (keepSegment file kept p)) :
    ∀ p ∈ pathFrom file kept pieces, P p := by
  have hreverse {kept : List (List Char)} (hkept : ∀ p ∈ kept, P p) :
      ∀ p ∈ kept.reverse ++ [[]], P p :=
    List.forall_mem_append.2 ⟨fun p hp => hkept p (List.mem_reverse.1 hp),
      List.forall_mem_singleton.2 hnil⟩
  fun_induction pathFrom file kept pieces
  case case1 => exact fun p hp => hkept p (List.mem_reverse.1 hp)
  case case2 => exact hreverse fun p hp => hkept p (mem_of_mem_dropSegment hp)
  case case3 => exact hreverse hkept
  case case4 last hdd hd =>
    have hlast := h last List.mem_cons_self (by simpa using hd) (by simpa using hdd)
    exact List.forall_mem_append.2 ⟨fun p hp => hkept p (List.mem_reverse.1 hp),
      List.forall_mem_singleton.2 (hlast _)⟩
  case case5 ih =>
    exact ih (fun p hp => hkept p (mem_of_mem_dropSegment hp)) (List.forall_mem_cons.1 h).2
  case case6 ih => exact ih hkept (List.forall_mem_cons.1 h).2
  case case7 kept segment next more hdd hd ih =>
    obtain ⟨hsegment, hrest⟩ := List.forall_mem_cons.1 h
    have hkeep := hsegment (by simpa using hd) (by simpa using hdd) kept
    exact ih (List.forall_mem_cons.2 ⟨hkeep, hkept⟩) hrest

/-- What is kept consists of segments in their final form. -/
theorem isPiece_of_mem_pathFrom (file : Bool) (hkept : ∀ p ∈ kept, IsPiece special p)
    (h : ∀ p ∈ pieces, '|' ∉ p ∧ (isDot p = false → isDotDot p = false → IsPiece special p)) :
    ∀ p ∈ pathFrom file kept pieces, IsPiece special p := by
  refine forall_mem_pathFrom (isPiece_nil special) hkept fun p hp hd hdd kept => ?_
  obtain ⟨hbar, hpiece⟩ := h p hp
  rw [keepSegment_of_notMem hbar]
  exact hpiece hd hdd

theorem pathFrom_ne_nil (file : Bool) (kept : List (List Char)) (h : pieces ≠ []) :
    pathFrom file kept pieces ≠ [] := by
  fun_induction pathFrom file kept pieces
  case case1 => exact absurd rfl h
  case case5 ih => exact ih (by simp)
  case case6 ih => exact ih (by simp)
  case case7 ih => exact ih (by simp)
  all_goals simp

theorem trimFilePath_of_startsFile (h : file = true → StartsFile pieces) (hne : pieces ≠ []) :
    trimFilePath file pieces = pieces := by
  unfold trimFilePath
  split
  · rename_i hf
    cases pieces with
    | nil => exact absurd rfl hne
    | cons p rest =>
      cases p with
      | nil => rw [h hf rfl]; rfl
      | cons c cs => rfl
  · rfl

theorem mem_trimFilePath (h : piece ∈ trimFilePath file pieces) : piece = [] ∨ piece ∈ pieces := by
  unfold trimFilePath at h
  split at h
  · split at h
    · exact .inl (List.mem_singleton.1 h)
    · exact .inr ((List.dropWhile_sublist _).subset h)
  · exact .inr h

/-- Trimming leaves segments that a file path may have. -/
theorem trimFilePath_spec (file : Bool) (hne : pieces ≠ []) (h : ∀ p ∈ pieces, IsPiece special p) :
    trimFilePath file pieces ≠ [] ∧ (∀ p ∈ trimFilePath file pieces, IsPiece special p) ∧
      (file = true → StartsFile (trimFilePath file pieces)) := by
  unfold trimFilePath
  split
  · split
    · exact ⟨by simp, List.forall_mem_singleton.2 (isPiece_nil special), fun _ _ => rfl⟩
    · rename_i hd
      refine ⟨hd, fun q hq => h q ((List.dropWhile_sublist _).subset hq), fun _ hp => ?_⟩
      obtain ⟨rest, hrest⟩ := List.head?_eq_some_iff.1 hp
      have hhead := List.head?_dropWhile_not (· = []) pieces
      rw [hrest] at hhead
      simp at hhead
  · rename_i hf
    exact ⟨hne, h, fun ht => absurd ht hf⟩

/-! ## Whole paths -/

theorem stays_escapeSigns : ∀ c ∈ Percent.escapeSigns,
    Percent.Stays escapedInPath c ∧ isSlash true c = false ∧ c ≠ '|' := by
  unfold Percent.Stays
  exact List.all_iff_forall_prop.1 (by decide)

theorem mem_segments {c : Char} (hp : piece ∈ segments special text) (hc : c ∈ piece) :
    c ∈ text ∧ isSlash special c = false := by
  have hne : c ≠ '/' := fun he => Text.notMem_of_mem_split hp (he ▸ hc)
  obtain ⟨d, hd, rfl⟩ := List.mem_map.1 (Text.subset_of_mem_split hp hc)
  split at hne
  · exact absurd rfl hne
  · rename_i hs
    rw [if_neg hs]
    exact ⟨hd, by simpa using hs⟩

/-- A path that was built is in its final form. -/
theorem isPath_buildPath (h : '|' ∉ text) : IsPath kind (buildPath kind [] text) := by
  have hpieces : ∀ p ∈ (segments kind.isSpecial text).map (Percent.encode escapedInPath),
      '|' ∉ p ∧ (isDot p = false → isDotDot p = false → IsPiece kind.isSpecial p) := by
    intro p hp
    obtain ⟨segment, hs, rfl⟩ := List.mem_map.1 hp
    have hchars : ∀ c ∈ Percent.encode escapedInPath segment, Percent.Stays escapedInPath c ∧
        isSlash kind.isSpecial c = false ∧ c ≠ '|' := by
      intro c hc
      rcases Percent.mem_encode hc with hsign | ⟨hc, hstays⟩
      · obtain ⟨hstays, hslash, hbar⟩ := stays_escapeSigns c hsign
        refine ⟨hstays, ?_, hbar⟩
        cases kind.isSpecial with
        | true => exact hslash
        | false => simpa [isSlash] using (Bool.or_eq_false_iff.1 hslash).1
      · obtain ⟨hmem, hslash⟩ := mem_segments hs hc
        exact ⟨hstays, hslash, fun he => h (he ▸ hmem)⟩
    exact ⟨fun hb => (hchars _ hb).2.2 rfl,
      fun hd hdd => ⟨fun c hc => (hchars c hc).1, fun c hc => (hchars c hc).2.1,
        fun hb => (hchars _ hb).2.2 rfl, hd, hdd⟩⟩
  have hne : (segments kind.isSpecial text).map (Percent.encode escapedInPath) ≠ [] := by
    simpa [segments] using Text.split_ne_nil _ _
  obtain ⟨hne, hp, hf⟩ := trimFilePath_spec (kind = .file) (pathFrom_ne_nil (kind = .file) [] hne)
    (isPiece_of_mem_pathFrom (kind = .file) nofun hpieces)
  exact ⟨_, rfl, hne, hp, fun hk => hf (decide_eq_true hk)⟩

/-- A path in its final form is built from its own text. -/
theorem buildPath_of_isPath (h : IsPath kind path) : buildPath kind [] (path.drop 1) = path := by
  obtain ⟨pieces, rfl, hne, hp, hf⟩ := h
  have hmap : (Text.join '/' pieces).map (fun c => if isSlash kind.isSpecial c then '/' else c) =
      Text.join '/' pieces := by
    refine (List.map_congr_left fun c hc => ?_).trans (List.map_id _)
    rcases Text.mem_join hc with rfl | ⟨p, hm, hc⟩
    · split <;> rfl
    · rw [(hp p hm).slash c hc]
      rfl
  have hsegments : (segments kind.isSpecial (Text.join '/' pieces)).map
      (Percent.encode escapedInPath) = pieces := by
    rw [segments, hmap, Text.split_join hne fun p hm hslash => by
      simpa [isSlash] using (hp p hm).slash '/' hslash]
    refine (List.map_congr_left fun p hm => ?_).trans (List.map_id _)
    exact Percent.encode_of_stays (hp p hm).stays
  rw [List.drop_one, List.tail_cons, buildPath]
  simp only [hsegments]
  rw [pathFrom_of_isPiece hne hp, List.reverse_nil, List.nil_append,
    trimFilePath_of_startsFile (fun hk => hf (of_decide_eq_true hk)) hne]

/-- A dot segment in front adds nothing. -/
theorem buildPath_dot (kind : SchemeKind) (body : List Char) :
    buildPath kind [] ('.' :: '/' :: body) = buildPath kind [] body := by
  have hsegments : segments kind.isSpecial ('.' :: '/' :: body) =
      ['.'] :: segments kind.isSpecial body := by
    have hsplit := Text.split_append '/' ['.']
      (body.map fun c => if isSlash kind.isSpecial c then '/' else c)
    rw [show Text.split '/' ['.'] = [['.']] from rfl] at hsplit
    simpa [segments, isSlash] using hsplit
  obtain ⟨first, more, hcons⟩ := List.exists_cons_of_ne_nil
    (Text.split_ne_nil '/' (body.map fun c => if isSlash kind.isSpecial c then '/' else c))
  have hdot : Percent.encode escapedInPath ['.'] = ['.'] := by decide
  rw [buildPath, buildPath, hsegments, segments, hcons]
  simp only [List.map_cons, hdot]
  rw [pathFrom, if_neg (by decide), if_pos (by decide)]

theorem stays_of_mem_isPath (h : IsPath kind path) {c : Char} (hc : c ∈ path) :
    Percent.Stays escapedInPath c := by
  obtain ⟨pieces, rfl, -, hp, -⟩ := h
  rcases List.mem_cons.1 hc with rfl | hc
  · exact ⟨by decide, by decide⟩
  rcases Text.mem_join hc with rfl | ⟨p, hm, hc⟩
  · exact ⟨by decide, by decide⟩
  · exact (hp p hm).stays c hc

/-- A path in its final form has no dot segments. -/
theorem isResolved_of_isPath (h : IsPath kind path) : Uri.removeDotSegments path = path := by
  obtain ⟨pieces, rfl, hne, hp, -⟩ := h
  refine Uri.removeDotSegments_of_isResolved ⟨0, [] :: pieces, by simp, ?_, ?_⟩
  · refine List.forall_mem_cons.2 ⟨rfl, fun p hm => ?_⟩
    have hdot : p ≠ ['.'] := fun he =>
      absurd (he ▸ (hp p hm).dot) (by decide)
    have hdotDot : p ≠ ['.', '.'] := fun he =>
      absurd (he ▸ (hp p hm).dotDot) (by decide)
    simp [Uri.isDotSegment, hdot, hdotDot]
  · rw [Text.split, if_pos rfl, Text.split_join hne fun p hm hslash => by
      simpa [isSlash] using (hp p hm).slash '/' hslash]
    rfl

end JsonSchema.Url
