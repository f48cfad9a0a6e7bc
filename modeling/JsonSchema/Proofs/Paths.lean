import JsonSchema.Proofs.Directory
import Mathlib

/-!
# Paths without dot segments, by rewriting and by law

RFC 3986 removes dot segments in section 5.2.4 with two buffers: prefixes of the input are rewritten
or moved to the output, and a step up takes the last segment of the output away. The segments that
climbing keeps are what stands in the output, the last one first, as long as the path starts at the
root; a relative path may keep steps up in front, which the buffers lose.

* `Uri.Buffers.step`, `Uri.Buffers.run`: one pass through the loop, and all of them.
* `Uri.Buffers.run_join`: what the passes write of segments that are left.
* `Uri.removeDotSegments_eq_rewrite`: the paths from the root are those of the buffers.
* `Uri.removeDotSegments_laws`: what is left of a path, and that it can be resolved in parts.
-/

namespace JsonSchema.Uri

/-- What is left of a path to read, and what is written of it. -/
structure Buffers where
  input : List Char
  output : List Char
  deriving DecidableEq

namespace Buffers

variable {kept segments : List Segment} {s : Segment} {b : Buffers} {rest output : List Char}

/-! ## Passes -/

/-- A text without its last segment and the `/` in front of it, if there is one. -/
def dropSegment (output : List Char) : List Char :=
  (output.reverse.dropWhile (· ≠ '/')).tail.reverse

/-- One pass through the loop: the rules A to E by the prefix of the input. -/
def step (b : Buffers) : Buffers :=
  match b.input with
  -- A. steps in front of a relative path are dropped
  | '.' :: '.' :: '/' :: rest => ⟨rest, b.output⟩
  | '.' :: '/' :: rest => ⟨rest, b.output⟩
  -- B. a segment that stays where it is
  | '/' :: '.' :: '/' :: rest => ⟨'/' :: rest, b.output⟩
  | ['/', '.'] => ⟨['/'], b.output⟩
  -- C. a segment that leads up
  | '/' :: '.' :: '.' :: '/' :: rest => ⟨'/' :: rest, dropSegment b.output⟩
  | ['/', '.', '.'] => ⟨['/'], dropSegment b.output⟩
  -- D. nothing but a dot segment
  | ['.'] => ⟨[], b.output⟩
  | ['.', '.'] => ⟨[], b.output⟩
  -- E. the first segment is moved, with the `/` in front of it
  | c :: rest => ⟨rest.dropWhile (· ≠ '/'), b.output ++ c :: rest.takeWhile (· ≠ '/')⟩
  | [] => b

/-- A pass reads something. -/
theorem length_step_lt (h : b.input ≠ []) : b.step.input.length < b.input.length := by
  have hdrop (rest : List Char) : (rest.dropWhile (· ≠ '/')).length < rest.length + 1 :=
    Nat.lt_succ_of_le (List.dropWhile_suffix _).length_le
  unfold step
  split
  case h_9 c rest _ _ _ _ _ _ _ _ hinput =>
    rw [hinput]
    exact hdrop rest
  case h_10 hinput => exact absurd hinput h
  all_goals
    rename_i hinput
    rw [hinput]
    simp only [List.length_cons, List.length_nil]
    omega

/-- Passes until nothing is left to read. -/
def run (b : Buffers) : List Char :=
  if _h : b.input = [] then b.output else run b.step
  termination_by b.input.length
  decreasing_by exact length_step_lt _h

theorem run_of_eq_nil (h : b.input = []) : b.run = b.output := by
  rw [run, dif_pos h]

theorem run_step (h : b.input ≠ []) : b.run = b.step.run := by
  conv_lhs => rw [run, dif_neg h]

/-! ## Written segments -/

/-- Segments as they stand in the output, the last one first. -/
def written (kept : List Segment) : List Char :=
  kept.reverse.flatMap ('/' :: ·)

theorem written_cons (s : Segment) (kept : List Segment) :
    written (s :: kept) = written kept ++ '/' :: s := by
  simp [written]

theorem cons_join (h : segments ≠ []) :
    '/' :: Text.join '/' segments = segments.flatMap ('/' :: ·) := by
  induction segments with
  | nil => exact absurd rfl h
  | cons s more ih =>
    by_cases hmore : more = []
    · subst hmore
      simp [Text.join]
    · rw [Text.join_cons '/' s hmore, List.flatMap_cons, ← ih hmore, List.cons_append]

theorem dropSegment_written (h : ∀ s ∈ kept, '/' ∉ s) :
    dropSegment (written kept) = written kept.tail := by
  cases kept with
  | nil => rfl
  | cons s below =>
    have hs : '/' ∉ s := h s List.mem_cons_self
    have hback : (written (s :: below)).reverse = s.reverse ++ '/' :: (written below).reverse := by
      rw [written_cons]
      simp
    have hdrop : (s.reverse ++ '/' :: (written below).reverse).dropWhile (· ≠ '/') =
        '/' :: (written below).reverse := by
      refine Text.dropWhile_append (fun c hc => decide_eq_true fun he => hs ?_) (by simp)
      exact he ▸ List.mem_reverse.1 hc
    rw [dropSegment, hback, hdrop, List.tail_cons, List.reverse_reverse, List.tail_cons]

/-- A step up from the root takes the last name away, if there is one. -/
theorem climb_up_root (h : AreNames kept) : climb true kept up = kept.tail := by
  simpa using @climb_up true kept 0 h

/-- What climbing from the root keeps: names, without a `/`. -/
def AreWritten (kept : List Segment) : Prop :=
  AreNames kept ∧ ∀ s ∈ kept, '/' ∉ s

theorem AreWritten.climb (h : AreWritten kept) (hs : '/' ∉ s) :
    AreWritten (climb true kept s) := by
  refine ⟨fun n hn => ?_, fun n hn => ?_⟩
  · by_cases hdot : s = ['.']
    · rw [hdot, climb_dot] at hn
      exact h.1 n hn
    by_cases hup : s = up
    · rw [hup, climb_up_root h.1] at hn
      exact h.1.tail n hn
    · have hname := isName_of_ne hdot hup
      rw [climb_name hname] at hn
      exact (List.mem_cons.1 hn).elim (fun he => he ▸ hname) (h.1 n)
  · exact (List.mem_cons.1 (climb_subset kept hn)).elim (fun he => he ▸ hs) (h.2 n)

/-! ## Runs -/

/-- What is left after a segment: nothing, or a `/` and more. -/
def StartsSegment (rest : List Char) : Prop :=
  ∀ c ∈ rest.head?, c = '/'

theorem startsSegment_nil : StartsSegment [] := nofun

theorem startsSegment_slash (rest : List Char) : StartsSegment ('/' :: rest) := by
  simp [StartsSegment]

theorem takeWhile_segment (hs : '/' ∉ s) (hrest : StartsSegment rest) :
    (s ++ rest).takeWhile (· ≠ '/') = s :=
  Text.takeWhile_append (fun _ hc => decide_eq_true fun he => hs (he ▸ hc))
    fun c hc => decide_eq_false (not_not_intro (hrest c hc))

theorem dropWhile_segment (hs : '/' ∉ s) (hrest : StartsSegment rest) :
    (s ++ rest).dropWhile (· ≠ '/') = rest :=
  Text.dropWhile_append (fun _ hc => decide_eq_true fun he => hs (he ▸ hc))
    fun c hc => decide_eq_false (not_not_intro (hrest c hc))

/-- A pass over a name moves it to the output. -/
theorem step_name (hs : '/' ∉ s) (hname : isDotSegment s = false) (hrest : StartsSegment rest)
    (output : List Char) : step ⟨'/' :: (s ++ rest), output⟩ = ⟨rest, output ++ '/' :: s⟩ := by
  -- A text is cut at its first `/` in one way, so no rule for dot segments applies.
  have hno {t more : List Char} (ht : '/' ∉ t) (hdot : isDotSegment t = true)
      (hmore : StartsSegment more) : '/' :: (s ++ rest) ≠ '/' :: (t ++ more) := by
    intro h
    have hst : s = t := by
      rw [← takeWhile_segment hs hrest, (List.cons.inj h).2, takeWhile_segment ht hmore]
    rw [hst, hdot] at hname
    cases hname
  have hdot {c : Char} {more more' : List Char} (hc : '/' ≠ c) : '/' :: more ≠ c :: more' :=
    fun h => hc (List.cons.inj h).1
  have hslash := startsSegment_slash
  have hnil := startsSegment_nil
  unfold step
  split
  case h_1 h => exact absurd h (hdot (by decide))
  case h_2 h => exact absurd h (hdot (by decide))
  case h_3 more h => exact absurd h (hno (t := ['.']) (by decide) rfl (hslash more))
  case h_4 h => exact absurd h (hno (t := ['.']) (by decide) rfl hnil)
  case h_5 more h => exact absurd h (hno (t := up) (by decide) rfl (hslash more))
  case h_6 h => exact absurd h (hno (t := up) (by decide) rfl hnil)
  case h_7 h => exact absurd h (hdot (by decide))
  case h_8 h => exact absurd h (hdot (by decide))
  case h_9 h =>
    obtain ⟨rfl, rfl⟩ := List.cons.inj h
    rw [takeWhile_segment hs hrest, dropWhile_segment hs hrest]
  case h_10 h => exact absurd h (List.cons_ne_nil _ _)

/-- A pass over a dot segment leaves the `/` that follows it, or the one in front of it. -/
theorem step_dot (hrest : StartsSegment rest) (output : List Char) :
    step ⟨'/' :: '.' :: rest, output⟩ = ⟨'/' :: rest.tail, output⟩ := by
  cases rest with
  | nil => rfl
  | cons c more =>
    obtain rfl : c = '/' := hrest c rfl
    rfl

theorem step_up (hrest : StartsSegment rest) (output : List Char) :
    step ⟨'/' :: '.' :: '.' :: rest, output⟩ = ⟨'/' :: rest.tail, dropSegment output⟩ := by
  cases rest with
  | nil => rfl
  | cons c more =>
    obtain rfl : c = '/' := hrest c rfl
    rfl

/-- **A pass over a segment writes what climbing keeps.** Behind a dot segment the input goes on
with a `/`, also if there was none. -/
theorem step_segment (hs : '/' ∉ s) (hrest : StartsSegment rest) (hk : AreWritten kept) :
    step ⟨'/' :: (s ++ rest), written kept⟩ =
      ⟨if isDotSegment s then '/' :: rest.tail else rest, written (climb true kept s)⟩ := by
  by_cases hdot : s = ['.']
  · rw [hdot, climb_dot]
    exact step_dot hrest _
  by_cases hup : s = up
  · rw [hup, climb_up_root hk.1, ← dropSegment_written hk.2]
    exact step_up hrest _
  · have hname := isName_of_ne hdot hup
    rw [step_name hs hname hrest, climb_name hname, written_cons, hname]
    rfl

/-- **What the passes write.** From what climbing has kept so far, the segments that are left are
climbed along, and a dot segment at the end leaves an empty segment. -/
theorem run_join (hne : segments ≠ []) (hs : ∀ s ∈ segments, '/' ∉ s) (hk : AreWritten kept) :
    run ⟨'/' :: Text.join '/' segments, written kept⟩ =
      written (if segments.getLast?.any isDotSegment then
        [] :: segments.foldl (climb true) kept else segments.foldl (climb true) kept) := by
  induction segments generalizing kept with
  | nil => exact absurd rfl hne
  | cons s more ih =>
    obtain ⟨hslash, hmore⟩ := List.forall_mem_cons.1 hs
    have hclimbed := hk.climb hslash
    rw [List.foldl_cons]
    by_cases hlast : more = []
    · subst hlast
      have hstep := step_segment hslash startsSegment_nil hk
      rw [List.append_nil] at hstep
      rw [Text.join, run_step (List.cons_ne_nil _ _), hstep]
      cases hdot : isDotSegment s with
      | false =>
        rw [run_of_eq_nil (by rfl)]
        simp [hdot]
      | true =>
        have hempty := step_name (s := []) List.not_mem_nil rfl startsSegment_nil
          (written (climb true kept s))
        rw [if_pos rfl, run_step (List.cons_ne_nil _ _), List.tail_nil]
        rw [List.append_nil] at hempty
        rw [hempty, run_of_eq_nil rfl]
        simp [hdot, written_cons]
    · have hstart := startsSegment_slash (Text.join '/' more)
      have hlast' : (s :: more).getLast? = more.getLast? := by
        rw [List.getLast?_cons, List.getLast?_eq_some_getLast hlast]
        rfl
      have hnext : (if isDotSegment s then '/' :: ('/' :: Text.join '/' more).tail
          else '/' :: Text.join '/' more) = '/' :: Text.join '/' more := by
        split <;> rfl
      rw [Text.join_cons '/' s hlast, run_step (List.cons_ne_nil _ _),
        step_segment hslash hstart hk, hnext, ih hlast hmore hclimbed, hlast']

end Buffers

/-- A path without dot segments, by two buffers. -/
def rewrite (path : List Char) : List Char :=
  Buffers.run ⟨path, []⟩

/-- **Paths from the root lose their dot segments as the two buffers say.** -/
theorem removeDotSegments_eq_rewrite (body : List Char) :
    removeDotSegments ('/' :: body) = rewrite ('/' :: body) := by
  have hne := Text.split_ne_nil '/' body
  have hslash (s : Segment) (hs : s ∈ Text.split '/' body) : '/' ∉ s := Text.notMem_of_mem_split hs
  calc removeDotSegments ('/' :: body)
    _ = (resolveSegments true (Text.split '/' body)).flatMap ('/' :: ·) :=
        Buffers.cons_join (areResolved_resolveSegments true hne).ne_nil
    _ = Buffers.run ⟨'/' :: Text.join '/' (Text.split '/' body), Buffers.written []⟩ :=
        (Buffers.run_join hne hslash ⟨areNames_nil, nofun⟩).symm
    _ = rewrite ('/' :: body) := by
        rw [Text.join_split]
        rfl

/-! ## Laws -/

variable {path d p : List Char}

theorem directory_of_getLast? (h : path.getLast? = some '/') : directory path = path := by
  obtain ⟨front, rfl⟩ := List.getLast?_eq_some_iff.1 h
  rw [directory, List.reverse_concat, List.dropWhile_cons_of_neg (by simp), List.reverse_cons,
    List.reverse_reverse]

theorem dot_notMem_split_removeDotSegments (path : List Char) :
    ['.'] ∉ Text.split '/' (removeDotSegments path) := by
  obtain ⟨ups, names, -, hn, hs⟩ := isResolved_removeDotSegments path
  rw [hs, ascent, List.mem_append, not_or]
  refine ⟨fun hm => ?_, fun hm => absurd (hn _ hm) (by decide)⟩
  exact absurd (List.eq_of_mem_replicate hm) (by decide)

/-- In front of a step up there are only steps up. -/
theorem eq_up_of_split_removeDotSegments {before after : List Segment}
    (h : Text.split '/' (removeDotSegments path) = before ++ up :: after) :
    ∀ s ∈ before, s = up := by
  obtain ⟨ups, names, -, hn, hs⟩ := isResolved_removeDotSegments path
  rw [hs, ascent] at h
  rcases List.append_eq_append_iff.1 h with ⟨more, -, hnames⟩ | ⟨more, hups, -⟩
  · exact absurd (hn up (by rw [hnames]; simp)) (by decide)
  · intro s hm
    exact List.eq_of_mem_replicate (hups ▸ List.mem_append_left more hm)

/-- A path from the root has no steps up. -/
theorem head?_of_split_eq_append_up {before after : List Segment}
    (h : Text.split '/' path = before ++ up :: after) (hups : ∀ s ∈ before, s = up) :
    path.head? ≠ some '/' := by
  intro hroot
  obtain ⟨s, rest, hs⟩ := head?_split_iff.1 hroot
  rw [hs] at h
  cases before with
  | nil => cases h
  | cons first more =>
    have hfirst := hups first List.mem_cons_self
    rw [← (List.cons.inj h).1] at hfirst
    cases hfirst

/-- A path that does not start at the root may be resolved before it is put into a directory that
does. -/
theorem removeDotSegments_append_removeDotSegments (hroot : d.head? = some '/')
    (hend : d.getLast? = some '/') (hp : p.head? ≠ some '/') :
    removeDotSegments (d ++ removeDotSegments p) = removeDotSegments (d ++ p) := by
  have hsegments : (Text.split '/' d).dropLast ≠ [] := by
    intro hnil
    have hhead := head?_dropLast_split_iff.2 hroot
    rw [hnil] at hhead
    cases hhead
  rw [← directory_of_getLast? hend]
  exact removeDotSegments_directory_append_of_head? hp (.inl hsegments)

/-- **What removing dot segments leaves.** Nothing is left to remove; no segment is `.`, and steps
up stand only at the front of paths that neither start at the root nor did so before; and what is
left leads from every directory below the root where the path leads. -/
theorem removeDotSegments_laws :
    (∀ path, removeDotSegments (removeDotSegments path) = removeDotSegments path) ∧
    (∀ path, ['.'] ∉ Text.split '/' (removeDotSegments path) ∧
      ∀ before after, Text.split '/' (removeDotSegments path) = before ++ ['.', '.'] :: after →
        path.head? ≠ some '/' ∧ (removeDotSegments path).head? ≠ some '/' ∧
          ∀ s ∈ before, s = ['.', '.']) ∧
    (∀ d p, d.head? = some '/' → d.getLast? = some '/' → p.head? ≠ some '/' →
      removeDotSegments (d ++ removeDotSegments p) = removeDotSegments (d ++ p)) := by
  refine ⟨removeDotSegments_idem, fun path => ⟨dot_notMem_split_removeDotSegments path, ?_⟩,
    fun d p => removeDotSegments_append_removeDotSegments⟩
  intro before after h
  have hups := eq_up_of_split_removeDotSegments h
  have hhead := head?_of_split_eq_append_up h hups
  refine ⟨fun hroot => hhead ?_, hhead, hups⟩
  obtain ⟨body, rfl⟩ := List.head?_eq_some_iff.1 hroot
  rfl

/-- Steps up beyond a directory, past an empty segment, and a step up that is left in front. -/
theorem removeDotSegments_laws_climbing :
    let d := "/a//".toList
    let p := "b/../../../..//c/.".toList
    removeDotSegments p = "../../..//c/".toList ∧
      removeDotSegments (d ++ removeDotSegments p) = removeDotSegments (d ++ p) ∧
      removeDotSegments (d ++ p) = "//c/".toList ∧
      "../../..//c/".toList.head? ≠ some '/' ∧ ∀ s ∈ [['.', '.']], s = ['.', '.'] := by
  obtain ⟨-, hsegments, happend⟩ := removeDotSegments_laws
  have hkept : removeDotSegments "b/../../../..//c/.".toList = "../../..//c/".toList := by decide
  have hfront := (hsegments "b/../../../..//c/.".toList).2 [['.', '.']]
    [['.', '.'], [], ['c'], []] (by rw [hkept]; decide)
  rw [hkept] at hfront
  exact ⟨hkept, happend _ _ (by decide) (by decide) (by decide), by decide, hfront.2⟩

end JsonSchema.Uri
