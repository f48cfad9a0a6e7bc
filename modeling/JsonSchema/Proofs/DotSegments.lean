import JsonSchema.Proofs.Split
import JsonSchema.Uri.DotSegments
import Mathlib

/-!
# Paths without dot segments

What `Uri.removeDotSegments` leaves are some `..` in front, none if the path is absolute, and then
segments that are neither `.` nor `..`.

* `foldl_climb_ascent`: what climbing keeps, by the number of steps up and the names after them.
* `removeDotSegments_idem`: a path without dot segments stays as it is.
-/

namespace JsonSchema.Uri

/-- The segment that leads up. -/
def up : Segment := ['.', '.']

/-- Segments that lead some steps up and then down along names. -/
def ascent (ups : Nat) (names : List Segment) : List Segment :=
  List.replicate ups up ++ names

/-- No segment is a dot segment. -/
def AreNames (names : List Segment) : Prop :=
  ∀ n ∈ names, isDotSegment n = false

variable {absolute : Bool} {names below : List Segment} {segment : Segment}

theorem ne_up_of_isName (h : isDotSegment segment = false) : segment ≠ up := by
  rintro rfl
  cases h

theorem areNames_nil : AreNames [] := nofun

theorem isName_of_ne (hdot : segment ≠ ['.']) (hup : segment ≠ up) :
    isDotSegment segment = false := by
  simp only [isDotSegment, Bool.or_eq_false_iff, decide_eq_false_iff_not]
  exact ⟨hdot, hup⟩

theorem climb_name (h : isDotSegment segment = false) (kept : List Segment) :
    climb absolute kept segment = segment :: kept := by
  obtain ⟨h₁, h₂⟩ : segment ≠ ['.'] ∧ segment ≠ ['.', '.'] := by
    simpa [isDotSegment] using h
  unfold climb
  rw [if_neg h₁, if_neg h₂]

theorem climb_dot (kept : List Segment) : climb absolute kept ['.'] = kept := by
  unfold climb
  rw [if_pos rfl]

/-- One step up from names on top of other steps up: a name goes, or else a step is added, but not
above the root. -/
theorem climb_up (ups : Nat) (h : AreNames names) :
    climb absolute (names ++ List.replicate (if absolute then 0 else ups) up) up =
      names.tail ++
        List.replicate (if absolute then 0 else if names = [] then ups + 1 else ups) up := by
  unfold climb
  rw [if_neg (by decide), if_pos (show up = ['.', '.'] from rfl)]
  cases names with
  | cons top rest =>
    have ht := ne_up_of_isName (h top List.mem_cons_self)
    exact if_pos ht
  | nil =>
    cases absolute with
    | true => rfl
    | false =>
      cases ups with
      | zero => rfl
      | succ ups => rfl

theorem foldl_climb_names (h : AreNames names) (kept : List Segment) :
    names.foldl (climb absolute) kept = names.reverse ++ kept := by
  induction names generalizing kept with
  | nil => rfl
  | cons n rest ih =>
    rw [List.foldl_cons, climb_name (h n List.mem_cons_self),
      ih fun m hm => h m (List.mem_cons_of_mem _ hm), List.reverse_cons, List.append_assoc]
    rfl

theorem AreNames.tail (h : AreNames names) : AreNames names.tail :=
  fun n hn => h n (List.mem_of_mem_tail hn)

theorem foldl_climb_ups (k ups : Nat) (h : AreNames names) :
    (List.replicate k up).foldl (climb absolute)
        (names ++ List.replicate (if absolute then 0 else ups) up) =
      names.drop k ++
        List.replicate (if absolute then 0 else ups + (k - names.length)) up := by
  induction k generalizing names ups with
  | zero => simp
  | succ k ih =>
    rw [List.replicate_succ, List.foldl_cons, climb_up ups h, ih _ h.tail, List.drop_tail]
    cases names with
    | nil => simp [Nat.add_assoc, Nat.add_comm 1 k]
    | cons n rest => simp

/-- **What climbing keeps.** From names on top of steps up, some steps up take names away first, and
the names after them come on top. -/
theorem foldl_climb_ascent (absolute : Bool) (k ups : Nat) (h : AreNames names)
    {later : List Segment} (hl : AreNames later) :
    (ascent k later).foldl (climb absolute)
        (names ++ List.replicate (if absolute then 0 else ups) up) =
      later.reverse ++ (names.drop k ++
        List.replicate (if absolute then 0 else ups + (k - names.length)) up) := by
  rw [ascent, List.foldl_append, foldl_climb_ups k ups h, foldl_climb_names hl]

/-- Climbing keeps names on top of steps up, whatever the segments are. -/
theorem exists_foldl_climb (absolute : Bool) (segments : List Segment) (ups : Nat)
    (h : AreNames names) :
    ∃ names' ups', AreNames names' ∧
      segments.foldl (climb absolute)
          (names ++ List.replicate (if absolute then 0 else ups) up) =
        names' ++ List.replicate (if absolute then 0 else ups') up := by
  induction segments generalizing names ups with
  | nil => exact ⟨names, ups, h, rfl⟩
  | cons s rest ih =>
    rw [List.foldl_cons]
    by_cases hdot : s = ['.']
    · rw [hdot, climb_dot]
      exact ih ups h
    by_cases hup : s = up
    · rw [hup, climb_up ups h]
      exact ih _ h.tail
    · have hs := isName_of_ne hdot hup
      rw [climb_name hs, ← List.cons_append]
      exact ih ups fun n hn => (List.mem_cons.1 hn).elim (fun he => he ▸ hs) (h n)

/-! ## Resolved segments -/

/-- The segments of a path without dot segments: some steps up, and then names. -/
def AreResolved (segments : List Segment) : Prop :=
  ∃ ups names, names ≠ [] ∧ AreNames names ∧ segments = ascent ups names

theorem isDotSegment_getLast? (front : List Segment) (hne : names ≠ []) (hn : AreNames names) :
    (front ++ names).getLast?.any isDotSegment = false := by
  rw [List.getLast?_append, List.getLast?_eq_some_getLast hne]
  exact hn _ (List.getLast_mem hne)

/-- **Segments resolved below others.** Steps up take names of the others away; what is left of
them are new steps up, unless the path is absolute. -/
theorem resolveSegments_append (absolute : Bool) (ups k : Nat) {outer : List Segment}
    (ho : AreNames outer)
    (hne : names ≠ []) (hn : AreNames names) :
    resolveSegments absolute (ascent ups outer ++ ascent k names) =
      ascent (if absolute then 0 else ups + (k - outer.length))
        (outer.take (outer.length - k) ++ names) := by
  have hlast : (ascent ups outer ++ ascent k names).getLast?.any isDotSegment = false := by
    rw [ascent, ascent, ← List.append_assoc]
    exact isDotSegment_getLast? _ hne hn
  have houter : (ascent ups outer).foldl (climb absolute) [] =
      outer.reverse ++ List.replicate (if absolute then 0 else ups) up := by
    have h := foldl_climb_ascent absolute ups 0 areNames_nil ho
    simpa using h
  have hrev : AreNames outer.reverse := fun n hm => ho n (List.mem_reverse.1 hm)
  simp only [resolveSegments, hlast, Bool.false_eq_true, if_false]
  rw [List.foldl_append, houter, foldl_climb_ascent absolute k ups hrev hn, List.drop_reverse,
    List.length_reverse, ascent]
  simp

theorem resolveSegments_ascent (absolute : Bool) (ups : Nat) (hne : names ≠ [])
    (hn : AreNames names) (ha : absolute = true → ups = 0) :
    resolveSegments absolute (ascent ups names) = ascent ups names := by
  have h := resolveSegments_append absolute 0 ups areNames_nil hne hn
  have hups : (if absolute then 0 else ups) = ups := by
    cases absolute with
    | true => exact (ha rfl).symm
    | false => rfl
  simpa [ascent, hups] using h

theorem AreNames.concat (hn : AreNames names) (hs : isDotSegment segment = false) :
    AreNames (names.reverse ++ [segment]) := by
  intro n hm
  rcases List.mem_append.1 hm with h | h
  · exact hn n (List.mem_reverse.1 h)
  · rw [List.mem_singleton.1 h]
    exact hs

/-- What is left is some steps up, none on an absolute path, and then names. -/
theorem exists_resolveSegments_eq (absolute : Bool) {segments : List Segment}
    (hne : segments ≠ []) : ∃ ups names, names ≠ [] ∧ AreNames names ∧
      resolveSegments absolute segments = ascent (if absolute then 0 else ups) names := by
  obtain ⟨front, last, rfl⟩ : ∃ front last, segments = front ++ [last] :=
    ⟨_, _, (List.dropLast_concat_getLast hne).symm⟩
  cases hd : isDotSegment last with
  | true =>
    obtain ⟨names, ups, hn, hk⟩ :=
      exists_foldl_climb absolute (front ++ [last]) 0 areNames_nil
    simp only [List.nil_append, ite_self, List.replicate_zero] at hk
    simp only [resolveSegments, hk, List.getLast?_concat, Option.any_some, hd, if_true]
    exact ⟨ups, _, by simp, hn.concat (show isDotSegment [] = false from rfl), by simp [ascent]⟩
  | false =>
    obtain ⟨names, ups, hn, hk⟩ :=
      exists_foldl_climb absolute front 0 areNames_nil
    simp only [List.nil_append, ite_self, List.replicate_zero] at hk
    simp only [resolveSegments, List.getLast?_concat, Option.any_some, hd, Bool.false_eq_true,
      if_false, List.foldl_append, hk, List.foldl_cons, List.foldl_nil, climb_name hd]
    exact ⟨ups, _, by simp, hn.concat hd, by simp [ascent]⟩

theorem areResolved_resolveSegments (absolute : Bool) {segments : List Segment}
    (hne : segments ≠ []) : AreResolved (resolveSegments absolute segments) := by
  obtain ⟨ups, names, hne, hn, hs⟩ := exists_resolveSegments_eq absolute hne
  exact ⟨_, names, hne, hn, hs⟩

theorem climb_subset (kept : List Segment) : climb absolute kept segment ⊆ segment :: kept := by
  unfold climb
  split
  · exact List.subset_cons_self _ _
  split
  · split
    · split
      · exact fun s hs => by simp [hs]
      split
      · exact List.subset_cons_self _ _
      · exact List.Subset.refl _
    · split <;> simp
  · exact List.Subset.refl _

theorem mem_of_mem_foldl_climb {segments kept : List Segment}
    (h : segment ∈ segments.foldl (climb absolute) kept) : segment ∈ kept ∨ segment ∈ segments := by
  induction segments generalizing kept with
  | nil => exact .inl h
  | cons s rest ih =>
    rcases ih h with hk | hr
    · rcases List.mem_cons.1 (climb_subset kept hk) with rfl | hk
      · exact .inr List.mem_cons_self
      · exact .inl hk
    · exact .inr (List.mem_cons_of_mem _ hr)

/-- Nothing but an empty segment is new. -/
theorem mem_of_mem_resolveSegments {segments : List Segment}
    (h : segment ∈ resolveSegments absolute segments) : segment = [] ∨ segment ∈ segments := by
  have hfold : segment ∈ segments.foldl (climb absolute) [] → segment ∈ segments := fun hf =>
    (mem_of_mem_foldl_climb hf).resolve_left List.not_mem_nil
  simp only [resolveSegments] at h
  split at h
  · rcases List.mem_cons.1 (List.mem_reverse.1 h) with rfl | hf
    · exact .inl rfl
    · exact .inr (hfold hf)
  · exact .inr (hfold (List.mem_reverse.1 h))

/-! ## Resolved paths -/

/-- A path without dot segments but for steps up in front. -/
def IsResolved (path : List Char) : Prop :=
  AreResolved (Text.split '/' path)

theorem AreResolved.ne_nil {segments : List Segment} (h : AreResolved segments) :
    segments ≠ [] := by
  obtain ⟨ups, names, hne, -, rfl⟩ := h
  simp [ascent, hne]

theorem AreResolved.names_of_absolute {segments : List Segment}
    (h : AreResolved ([] :: segments)) : AreNames segments := by
  obtain ⟨ups, names, hne, hn, hs⟩ := h
  cases ups with
  | succ k => cases hs
  | zero =>
    cases hs
    exact hn.tail

theorem slash_notMem_of_mem_resolveSegments {path : List Char} {segment : Segment}
    (h : segment ∈ resolveSegments absolute (Text.split '/' path)) : '/' ∉ segment := by
  rcases mem_of_mem_resolveSegments h with rfl | hm
  · simp
  · exact Text.notMem_of_mem_split hm

theorem split_join_resolveSegments (absolute : Bool) (path : List Char) :
    Text.split '/' (Text.join '/' (resolveSegments absolute (Text.split '/' path))) =
      resolveSegments absolute (Text.split '/' path) :=
  Text.split_join (areResolved_resolveSegments absolute (Text.split_ne_nil '/' path)).ne_nil
    fun _ hm => slash_notMem_of_mem_resolveSegments hm

theorem isResolved_removeDotSegments (path : List Char) : IsResolved (removeDotSegments path) := by
  fun_cases removeDotSegments path
  case case1 => exact ⟨0, [[]], by simp, fun n hn => List.mem_singleton.1 hn ▸ rfl, rfl⟩
  case case2 body =>
    obtain ⟨_, names, hne, hn, hs⟩ :=
      exists_resolveSegments_eq true (Text.split_ne_nil '/' body)
    refine ⟨0, [] :: names, by simp, ?_, ?_⟩
    · exact fun n hm => (List.mem_cons.1 hm).elim (fun he => he ▸ rfl) (hn n)
    · rw [Text.split, if_pos rfl, split_join_resolveSegments, hs]
      rfl
  case case3 =>
    rw [IsResolved, split_join_resolveSegments]
    exact areResolved_resolveSegments false (Text.split_ne_nil '/' path)

theorem removeDotSegments_of_isResolved {path : List Char} (h : IsResolved path) :
    removeDotSegments path = path := by
  fun_cases removeDotSegments path
  case case1 => rfl
  case case2 body =>
    rw [IsResolved, Text.split, if_pos rfl] at h
    have hs : resolveSegments true (Text.split '/' body) = Text.split '/' body :=
      resolveSegments_ascent true 0 (Text.split_ne_nil '/' body) h.names_of_absolute fun _ => rfl
    rw [hs, Text.join_split]
  case case3 =>
    obtain ⟨ups, names, hne, hn, hs⟩ := h
    have hr := resolveSegments_ascent false ups hne hn fun h => absurd h Bool.false_ne_true
    rw [hs, hr, ← hs, Text.join_split]

theorem mem_of_mem_removeDotSegments {c : Char} {path : List Char}
    (h : c ∈ removeDotSegments path) : c = '/' ∨ c ∈ path := by
  have hjoin {absolute : Bool} {body : List Char}
      (hc : c ∈ Text.join '/' (resolveSegments absolute (Text.split '/' body))) :
      c = '/' ∨ c ∈ body := by
    rcases Text.mem_join hc with rfl | ⟨s, hs, hcs⟩
    · exact .inl rfl
    rcases mem_of_mem_resolveSegments hs with rfl | hs
    · cases hcs
    · exact .inr (Text.subset_of_mem_split hs hcs)
  revert h
  fun_cases removeDotSegments path <;> intro h
  case case1 => cases h
  case case2 body =>
    rcases List.mem_cons.1 h with rfl | h
    · exact .inl rfl
    · exact (hjoin h).imp_right (List.mem_cons_of_mem _)
  case case3 => exact hjoin h

/-- **Removing dot segments twice is removing them once.** -/
theorem removeDotSegments_idem (path : List Char) :
    removeDotSegments (removeDotSegments path) = removeDotSegments path :=
  removeDotSegments_of_isResolved (isResolved_removeDotSegments path)

end JsonSchema.Uri
