import JsonSchema.Proofs.Alias
import JsonSchema.Proofs.Fragment
import JsonSchema.Proofs.Readback
import Mathlib

/-!
# Resolving before and after normalization

The parts of a reference are brought to their normal form when it is read, and it is resolved
afterwards. Dot segments of the reference may be removed first as long as its path stays relative.
Those of the base may be removed first exactly if this keeps the directory of the base.

* `Uri.resolveSegments_append_resolveSegments`: segments may be resolved before they are put below
  others.
* `Uri.removeDotSegments_directory_append`: a directory may be resolved before a path is put in it.
* `Reference.resolve_normal_iff`: when normalization does not change what a reference leads to.
-/

namespace JsonSchema

namespace Uri

variable {absolute : Bool} {segments kept init names : List Segment} {last : Segment}
  {path p : List Char} {u v : Uri}

/-! ## Climbing along what was kept -/

theorem dot_notMem_foldl_climb (segments : List Segment) :
    ['.'] ∉ segments.foldl (climb absolute) [] := by
  obtain ⟨names, ups, hn, hk⟩ := exists_foldl_climb absolute segments 0 areNames_nil
  simp only [List.nil_append, ite_self, List.replicate_zero] at hk
  rw [hk]
  intro hm
  rcases List.mem_append.1 hm with hm | hm
  · exact absurd (hn _ hm) (by decide)
  · exact absurd (List.eq_of_mem_replicate hm) (by decide)

theorem climb_up_cons {top : Segment} {below : List Segment} (h : top ≠ up) :
    climb absolute (top :: below) up = below := by
  unfold climb
  rw [if_neg (by decide), if_pos (show up = ['.', '.'] from rfl)]
  exact if_pos h

/-- **What segments keep leads where they lead**, from every place. -/
theorem foldl_climb_foldl (segments kept : List Segment) :
    (segments.foldl (climb false) []).reverse.foldl (climb absolute) kept =
      segments.foldl (climb absolute) kept := by
  induction segments using List.reverseRecOn with
  | nil => rfl
  | append_singleton front s ih =>
    rw [List.foldl_append, List.foldl_append, List.foldl_cons, List.foldl_nil, List.foldl_cons,
      List.foldl_nil]
    by_cases hdot : s = ['.']
    · rw [hdot, climb_dot, climb_dot, ih]
    by_cases hup : s = up
    · subst hup
      cases hfront : front.foldl (climb false) [] with
      | nil =>
        rw [hfront] at ih
        rw [← ih]
        rfl
      | cons top below =>
        rw [hfront, List.reverse_cons, List.foldl_append, List.foldl_cons, List.foldl_nil] at ih
        by_cases htop : top = up
        · subst htop
          -- Above a step up, another one is kept.
          have hkeep : climb false (up :: below) up = up :: up :: below := rfl
          rw [hkeep, List.reverse_cons, List.foldl_append, List.reverse_cons, List.foldl_append,
            ← ih]
          rfl
        · have hne : top ≠ ['.'] := fun he =>
            dot_notMem_foldl_climb front (by rw [hfront, he]; exact List.mem_cons_self)
          have hname := isName_of_ne hne htop
          rw [climb_up_cons htop, ← ih, climb_name hname, climb_up_cons htop]
    · have hname := isName_of_ne hdot hup
      rw [climb_name hname, climb_name hname, List.reverse_cons, List.foldl_append, ih,
        List.foldl_cons, List.foldl_nil, climb_name hname]

/-- **Segments may be resolved before they are put below others.** -/
theorem resolveSegments_append_resolveSegments (init : List Segment) (hne : segments ≠ []) :
    resolveSegments absolute (init ++ resolveSegments false segments) =
      resolveSegments absolute (init ++ segments) := by
  have hunfold (absolute : Bool) (segs : List Segment) : resolveSegments absolute segs =
      (if segs.getLast?.any isDotSegment then [] :: segs.foldl (climb absolute) []
        else segs.foldl (climb absolute) []).reverse := rfl
  have hlast : (init ++ segments).getLast? = segments.getLast? :=
    List.getLast?_append_of_ne_nil init hne
  have hlast' : (init ++ resolveSegments false segments).getLast?.any isDotSegment = false := by
    obtain ⟨ups, names, hnames, hn, hs⟩ := exists_resolveSegments_eq false hne
    rw [hs, ascent, ← List.append_assoc]
    exact isDotSegment_getLast? _ hnames hn
  rw [hunfold absolute (init ++ resolveSegments false segments), hlast',
    hunfold absolute (init ++ segments), hlast, List.foldl_append, List.foldl_append,
    hunfold false segments]
  cases segments.getLast?.any isDotSegment with
  | false =>
    simp only [Bool.false_eq_true, if_false]
    rw [foldl_climb_foldl]
  | true =>
    simp only [Bool.false_eq_true, if_true, if_false, List.reverse_cons, List.foldl_append,
      List.foldl_cons, List.foldl_nil]
    rw [foldl_climb_foldl, climb_name (show isDotSegment [] = false from rfl), List.reverse_cons]

/-- What was kept leads where the segments lead that it was kept of. -/
theorem foldl_climb_reverse_foldl (segments : List Segment) :
    (segments.foldl (climb absolute) []).reverse.foldl (climb absolute) [] =
      segments.foldl (climb absolute) [] := by
  obtain ⟨names, ups, hn, hk⟩ := exists_foldl_climb absolute segments 0 areNames_nil
  simp only [List.nil_append, ite_self, List.replicate_zero] at hk
  have hrev : AreNames names.reverse := fun n hm => hn n (List.mem_reverse.1 hm)
  have hascent := foldl_climb_ascent absolute (if absolute then 0 else ups) 0 areNames_nil hrev
  simp only [List.nil_append, ite_self, List.replicate_zero, List.drop_nil, List.length_nil,
    Nat.sub_zero, Nat.zero_add, List.reverse_reverse] at hascent
  rw [hk, List.reverse_append, List.reverse_replicate]
  refine hascent.trans ?_
  cases absolute <;> rfl

/-! ## Paths and their segments -/

/-- A path that is neither empty nor starts at the root. -/
def IsRelativePath (p : List Char) : Prop :=
  p ≠ [] ∧ p.head? ≠ some '/'

/-- The segments of a whole path without the dot segments. An empty segment in front of others is
the root. -/
def resolveWhole : List Segment → List Segment
  | [] :: s :: rest => [] :: resolveSegments true (s :: rest)
  | segments => resolveSegments false segments

theorem head?_split_iff :
    path.head? = some '/' ↔ ∃ s rest, Text.split '/' path = [] :: s :: rest := by
  constructor
  · intro h
    obtain ⟨body, rfl⟩ := List.head?_eq_some_iff.1 h
    obtain ⟨s, rest, hbody⟩ := List.exists_cons_of_ne_nil (Text.split_ne_nil '/' body)
    exact ⟨s, rest, by rw [Text.split, if_pos rfl, hbody]⟩
  · rintro ⟨s, rest, h⟩
    rw [← Text.join_split '/' path, h, Text.join_cons '/' [] (List.cons_ne_nil _ _)]
    rfl

theorem isRelativePath_iff : IsRelativePath p ↔ (Text.split '/' p).head? ≠ some [] := by
  cases p with
  | nil => exact iff_of_false (fun h => h.1 rfl) (fun h => h rfl)
  | cons c rest =>
    by_cases hc : c = '/'
    · subst hc
      refine iff_of_false (fun h => h.2 rfl) (fun h => h ?_)
      rw [Text.split, if_pos rfl]
      rfl
    · refine iff_of_true ⟨List.cons_ne_nil _ _, by simpa using hc⟩ ?_
      cases hs : Text.split '/' rest with
      | nil => exact absurd hs (Text.split_ne_nil '/' rest)
      | cons piece pieces =>
        rw [Text.split, if_neg hc, hs]
        simp

theorem eq_of_split_eq (h : Text.split '/' path = Text.split '/' p) : path = p := by
  rw [← Text.join_split '/' path, h, Text.join_split]

theorem removeDotSegments_of_head? (h : path.head? ≠ some '/') :
    removeDotSegments path = Text.join '/' (resolveSegments false (Text.split '/' path)) := by
  fun_cases removeDotSegments path with
  | case1 => rfl
  | case2 body => exact absurd rfl h
  | case3 => rfl

/-- The segments of a path without its dot segments. -/
theorem split_removeDotSegments (path : List Char) :
    Text.split '/' (removeDotSegments path) = resolveWhole (Text.split '/' path) := by
  by_cases hroot : path.head? = some '/'
  · obtain ⟨body, rfl⟩ := List.head?_eq_some_iff.1 hroot
    obtain ⟨s, rest, hbody⟩ := List.exists_cons_of_ne_nil (Text.split_ne_nil '/' body)
    rw [removeDotSegments, Text.split, if_pos rfl, split_join_resolveSegments, Text.split,
      if_pos rfl, hbody]
    rfl
  · rw [removeDotSegments_of_head? hroot, split_join_resolveSegments]
    generalize hs : Text.split '/' path = segs
    fun_cases resolveWhole segs with
    | case1 s rest => exact absurd (head?_split_iff.2 ⟨s, rest, hs⟩) hroot
    | case2 => rfl

theorem resolveWhole_append (hne : segments ≠ []) (hs : init ≠ [] ∨ segments.head? ≠ some []) :
    resolveWhole (init ++ segments) =
      if init.head? = some [] then [] :: resolveSegments true (init.tail ++ segments)
      else resolveSegments false (init ++ segments) := by
  cases init with
  | nil =>
    obtain ⟨s, rest, rfl⟩ := List.exists_cons_of_ne_nil hne
    cases s with
    | nil => exact absurd rfl (hs.resolve_left fun h => h rfl)
    | cons c cs => rfl
  | cons first more =>
    cases first with
    | cons c cs => rfl
    | nil =>
      obtain ⟨s, rest, hrest⟩ :=
        List.exists_cons_of_ne_nil (List.append_ne_nil_of_right_ne_nil more hne)
      rw [List.cons_append, hrest]
      simp only [List.head?_cons, if_true, List.tail_cons]
      rw [hrest]
      rfl

/-! ## Directories -/

/-- The path up to its last slash. -/
def directory (path : List Char) : List Char :=
  (path.reverse.dropWhile (· ≠ '/')).reverse

/-- A path ends in what follows its last slash. -/
theorem exists_directory (path : List Char) :
    ∃ last, '/' ∉ last ∧ path = directory path ++ last ∧
      Text.split '/' path = (Text.split '/' path).dropLast ++ [last] ∧
      ∀ p, Text.split '/' (directory path ++ p) =
        (Text.split '/' path).dropLast ++ Text.split '/' p := by
  by_cases hslash : '/' ∈ path
  · obtain ⟨back, front, hback, hn⟩ :=
      List.eq_append_cons_of_mem (List.mem_reverse.2 hslash)
    have hpath : path = front.reverse ++ '/' :: back.reverse := by
      rw [← List.reverse_reverse path, hback]
      simp
    have hlast : '/' ∉ back.reverse := fun hm => hn (List.mem_reverse.1 hm)
    have hdir : directory path = front.reverse ++ ['/'] := by
      have hdrop : path.reverse.dropWhile (· ≠ '/') = '/' :: front := by
        rw [hback]
        refine Text.dropWhile_append (fun d hd => decide_eq_true fun he => hn (he ▸ hd)) ?_
        simp
      rw [directory, hdrop, List.reverse_cons]
    have hsplit : Text.split '/' path = Text.split '/' front.reverse ++ [back.reverse] := by
      rw [hpath, Text.split_append, Text.split_of_notMem hlast]
    refine ⟨back.reverse, hlast, ?_, ?_, fun p => ?_⟩
    · rw [hdir, hpath]
      simp
    · rw [hsplit, List.dropLast_concat]
    · rw [hdir, hsplit, List.dropLast_concat, List.append_assoc, List.singleton_append,
        Text.split_append]
  · have hdir : directory path = [] := by
      have hdrop : path.reverse.dropWhile (· ≠ '/') = [] := by
        refine List.dropWhile_eq_nil_iff.2 fun c hc => decide_eq_true fun he => hslash ?_
        exact he ▸ List.mem_reverse.1 hc
      rw [directory, hdrop]
      rfl
    have hsplit : Text.split '/' path = [path] := Text.split_of_notMem hslash
    refine ⟨path, hslash, by rw [hdir]; rfl, by rw [hsplit]; rfl, fun p => ?_⟩
    rw [hdir, hsplit]
    rfl

theorem split_directory_append (path p : List Char) :
    Text.split '/' (directory path ++ p) =
      (Text.split '/' path).dropLast ++ Text.split '/' p := by
  obtain ⟨-, -, -, -, h⟩ := exists_directory path
  exact h p

theorem split_directory (path : List Char) :
    Text.split '/' (directory path) = (Text.split '/' path).dropLast ++ [[]] := by
  have h := split_directory_append path []
  rwa [List.append_nil] at h

theorem head?_directory_iff : (directory path).head? = some '/' ↔ path.head? = some '/' := by
  constructor
  · intro h
    obtain ⟨last, -, hpath, -⟩ := exists_directory path
    rw [hpath, List.head?_append, h]
    rfl
  · intro h
    obtain ⟨s, rest, hs⟩ := head?_split_iff.1 h
    refine head?_split_iff.2 ?_
    rw [split_directory, hs, List.dropLast_cons_of_ne_nil (List.cons_ne_nil _ _)]
    obtain ⟨t, more, hmore⟩ := List.exists_cons_of_ne_nil
      (List.append_ne_nil_of_right_ne_nil (s :: rest).dropLast (List.cons_ne_nil ([] : Segment) []))
    exact ⟨t, more, by rw [List.cons_append, hmore]⟩

theorem head?_dropLast_split_iff :
    (Text.split '/' path).dropLast.head? = some [] ↔ path.head? = some '/' := by
  constructor
  · intro h
    obtain ⟨rest, hrest⟩ := List.head?_eq_some_iff.1 h
    obtain ⟨last, -, -, hsplit, -⟩ := exists_directory path
    rw [hrest] at hsplit
    obtain ⟨t, more, hmore⟩ := List.exists_cons_of_ne_nil
      (List.append_ne_nil_of_right_ne_nil rest (List.cons_ne_nil last []))
    exact head?_split_iff.2 ⟨t, more, by rw [hsplit, List.cons_append, hmore]⟩
  · intro h
    obtain ⟨s, rest, hs⟩ := head?_split_iff.1 h
    rw [hs, List.dropLast_cons_of_ne_nil (List.cons_ne_nil _ _)]
    rfl

/-- A name at the end of the segments stays there. -/
theorem resolveSegments_concat (init : List Segment) (h : isDotSegment last = false) :
    resolveSegments absolute (init ++ [last]) =
      (init.foldl (climb absolute) []).reverse ++ [last] := by
  have hlast : (init ++ [last]).getLast?.any isDotSegment = false := by
    rw [List.getLast?_concat]
    exact h
  simp only [resolveSegments, hlast, Bool.false_eq_true, if_false]
  rw [List.foldl_append, List.foldl_cons, List.foldl_nil, climb_name h, List.reverse_cons]

/-- What is kept of segments can be put in their place. -/
theorem resolveSegments_reverse_append (init : List Segment) (hne : segments ≠ []) :
    resolveSegments absolute ((init.foldl (climb absolute) []).reverse ++ segments) =
      resolveSegments absolute (init ++ segments) := by
  simp only [resolveSegments, List.getLast?_append_of_ne_nil _ hne, List.foldl_append]
  rw [foldl_climb_reverse_foldl]

/-- The segments of a resolved path that ends in a name. -/
theorem split_removeDotSegments_directory_append (path : List Char) (hslash : '/' ∉ last)
    (hname : isDotSegment last = false) :
    Text.split '/' (removeDotSegments (directory path ++ last)) =
      (if (Text.split '/' path).dropLast.head? = some [] then
        [] :: ((Text.split '/' path).dropLast.tail.foldl (climb true) []).reverse
      else ((Text.split '/' path).dropLast.foldl (climb false) []).reverse) ++ [last] := by
  rw [split_removeDotSegments, split_directory_append, Text.split_of_notMem hslash]
  generalize (Text.split '/' path).dropLast = init
  by_cases hinit : init = [] ∧ last = []
  · obtain ⟨rfl, rfl⟩ := hinit
    rfl
  have hs : init ≠ [] ∨ [last].head? ≠ some [] := by
    by_cases hi : init = []
    · exact .inr fun he => hinit ⟨hi, Option.some.inj he⟩
    · exact .inl hi
  rw [resolveWhole_append (List.cons_ne_nil _ _) hs]
  split
  · rw [resolveSegments_concat _ hname]
    rfl
  · exact resolveSegments_concat _ hname

/-- **The directory of a resolved path is the resolved directory**, if the path ends in a name. -/
theorem directory_removeDotSegments_append (path : List Char) (hslash : '/' ∉ last)
    (hname : isDotSegment last = false) :
    directory (removeDotSegments (directory path ++ last)) =
      removeDotSegments (directory path) := by
  have hdir := split_removeDotSegments_directory_append path
    List.not_mem_nil rfl
  rw [List.append_nil] at hdir
  refine eq_of_split_eq ?_
  rw [split_directory, split_removeDotSegments_directory_append _ hslash hname, hdir,
    List.dropLast_concat]

theorem removeDotSegments_directory (h : IsResolved path) :
    removeDotSegments (directory path) = directory path := by
  obtain ⟨last, hslash, hpath, hsplit, -⟩ := exists_directory path
  have hname : isDotSegment last = false := by
    obtain ⟨ups, names, hne, hn, hs⟩ := h
    have hlast := isDotSegment_getLast? (List.replicate ups up) hne hn
    rw [← ascent, ← hs, hsplit, List.getLast?_concat] at hlast
    exact hlast
  have hdir := directory_removeDotSegments_append path hslash hname
  rw [← hpath, removeDotSegments_of_isResolved h] at hdir
  exact hdir.symm

/-- **A path that does not start at the root may be resolved before it is put into a directory**, if
there are segments in front of it, or if it stays relative. -/
theorem removeDotSegments_directory_append_of_head? (hp : p.head? ≠ some '/')
    (h : (Text.split '/' path).dropLast ≠ [] ∨
      IsRelativePath p ∧ IsRelativePath (removeDotSegments p)) :
    removeDotSegments (directory path ++ removeDotSegments p) =
      removeDotSegments (directory path ++ p) := by
  have hsplit : Text.split '/' (removeDotSegments p) =
      resolveSegments false (Text.split '/' p) := by
    rw [removeDotSegments_of_head? hp, split_join_resolveSegments]
  have hne := Text.split_ne_nil '/' p
  have hne' := Text.split_ne_nil '/' (removeDotSegments p)
  refine eq_of_split_eq ?_
  rw [split_removeDotSegments, split_removeDotSegments, split_directory_append,
    split_directory_append,
    resolveWhole_append hne (h.imp_right fun h => isRelativePath_iff.1 h.1),
    resolveWhole_append hne' (h.imp_right fun h => isRelativePath_iff.1 h.2), hsplit,
    resolveSegments_append_resolveSegments _ hne, resolveSegments_append_resolveSegments _ hne]

/-- A reference path may be resolved before it is put into a directory, if it stays relative. -/
theorem removeDotSegments_directory_append_removeDotSegments (path : List Char)
    (hp : IsRelativePath p) (hp' : IsRelativePath (removeDotSegments p)) :
    removeDotSegments (directory path ++ removeDotSegments p) =
      removeDotSegments (directory path ++ p) :=
  removeDotSegments_directory_append_of_head? hp.2 (.inr ⟨hp, hp'⟩)

/-- **A directory may be resolved before a path is put into it**, if it does not become the root. -/
theorem removeDotSegments_directory_append (hp : IsRelativePath p)
    (hroot : (removeDotSegments (directory path)).head? = some '/' → path.head? = some '/') :
    removeDotSegments (removeDotSegments (directory path) ++ p) =
      removeDotSegments (directory path ++ p) := by
  have hdir : directory (removeDotSegments (directory path)) =
      removeDotSegments (directory path) := by
    have h := directory_removeDotSegments_append path List.not_mem_nil rfl
    rwa [List.append_nil] at h
  have hsplit := split_removeDotSegments_directory_append path
    List.not_mem_nil rfl
  rw [List.append_nil] at hsplit
  have hne := Text.split_ne_nil '/' p
  have hhead := isRelativePath_iff.1 hp
  rw [← head?_dropLast_split_iff, ← head?_dropLast_split_iff, hsplit, List.dropLast_concat]
    at hroot
  refine eq_of_split_eq ?_
  rw [split_removeDotSegments, split_removeDotSegments, split_directory_append, ← hdir,
    split_directory_append, hsplit, List.dropLast_concat, resolveWhole_append hne (.inr hhead),
    resolveWhole_append hne (.inr hhead)]
  by_cases hinit : (Text.split '/' path).dropLast.head? = some []
  · simp only [hinit, if_true, List.head?_cons, List.tail_cons]
    rw [resolveSegments_reverse_append _ hne]
  · simp only [hinit, if_false] at hroot ⊢
    rw [if_neg hroot, resolveSegments_reverse_append _ hne]

/-! ## Bases -/

/-- Removing the dot segments of a path keeps its directory: the path does not become one that
starts at the root, and does not lose a segment to a step up at its end. -/
def KeepsDirectory (path : List Char) : Prop :=
  ((removeDotSegments path).head? = some '/' → path.head? = some '/') ∧
    directory (removeDotSegments path) = removeDotSegments (directory path)

instance : Decidable (KeepsDirectory path) :=
  inferInstanceAs (Decidable (_ ∧ _))

theorem KeepsDirectory.append (h : KeepsDirectory path) (hp : IsRelativePath p) :
    removeDotSegments (directory (removeDotSegments path) ++ p) =
      removeDotSegments (directory path ++ p) := by
  rw [h.2]
  refine removeDotSegments_directory_append hp fun hroot => h.1 ?_
  rw [← h.2] at hroot
  exact head?_directory_iff.1 hroot

/-- Some steps up and then down to one name. -/
def stepsUp (n : Nat) : List Char :=
  Text.join '/' (ascent n [['y']])

theorem split_stepsUp (n : Nat) : Text.split '/' (stepsUp n) = ascent n [['y']] := by
  refine Text.split_join (by simp [ascent]) fun s hs => ?_
  rcases List.mem_append.1 hs with hs | hs
  · rw [List.eq_of_mem_replicate hs]
    decide
  · rw [List.mem_singleton.1 hs]
    decide

theorem areNames_singleton : AreNames [['y']] := by
  intro n hn
  rw [List.mem_singleton.1 hn]
  decide

theorem isResolved_stepsUp (n : Nat) : IsResolved (stepsUp n) := by
  rw [IsResolved, split_stepsUp]
  exact ⟨n, [['y']], List.cons_ne_nil _ _, areNames_singleton, rfl⟩

theorem head?_ascent_ne (n : Nat) : (ascent n [['y']]).head? ≠ some [] := by
  cases n with
  | zero => decide
  | succ n =>
    rw [ascent, List.replicate_succ]
    exact fun h => absurd (Option.some.inj h) (by decide)

theorem isRelativePath_stepsUp (n : Nat) : IsRelativePath (stepsUp n) := by
  rw [isRelativePath_iff, split_stepsUp]
  exact head?_ascent_ne n

/-- Enough steps up leave a directory that is not below the root by all its names. -/
theorem exists_removeDotSegments_stepsUp (h : path.head? ≠ some '/') :
    ∃ n, (removeDotSegments (directory path ++ stepsUp n)).head? ≠ some '/' := by
  have hinit : (Text.split '/' path).dropLast.head? ≠ some [] := fun hh =>
    h (head?_dropLast_split_iff.1 hh)
  obtain ⟨names, ups, hn, hk⟩ :=
    exists_foldl_climb false (Text.split '/' path).dropLast 0 areNames_nil
  have hfold := foldl_climb_ascent false names.length ups hn areNames_singleton
  have hlast : ((Text.split '/' path).dropLast ++ ascent names.length [['y']]).getLast?.any
      isDotSegment = false := by
    rw [ascent, ← List.append_assoc]
    exact isDotSegment_getLast? _ (List.cons_ne_nil _ _) areNames_singleton
  have hsplit : Text.split '/' (removeDotSegments (directory path ++ stepsUp names.length)) =
      ascent ups [['y']] := by
    rw [split_removeDotSegments, split_directory_append, split_stepsUp,
      resolveWhole_append (by simp [ascent]) (.inr (head?_ascent_ne _)), if_neg hinit]
    simp only [resolveSegments, hlast, Bool.false_eq_true, if_false, List.foldl_append]
    simp only [List.nil_append, Bool.false_eq_true, if_false, List.replicate_zero] at hk
    simp only [Bool.false_eq_true, if_false, List.drop_length, Nat.sub_self, Nat.add_zero] at hfold
    rw [hk, hfold]
    simp [ascent]
  refine ⟨names.length, fun hroot => ?_⟩
  obtain ⟨s, rest, hs⟩ := head?_split_iff.1 hroot
  rw [hsplit] at hs
  exact head?_ascent_ne ups (by rw [hs]; rfl)

/-- **A directory is kept if no steps up can tell** what is resolved below it before and after. -/
theorem keepsDirectory_of_stepsUp
    (h : ∀ n, removeDotSegments (directory (removeDotSegments path) ++ stepsUp n) =
      removeDotSegments (directory path ++ stepsUp n)) : KeepsDirectory path := by
  constructor
  · intro hroot
    by_contra hrel
    obtain ⟨n, hn⟩ := exists_removeDotSegments_stepsUp hrel
    rw [← h n] at hn
    refine hn ?_
    have hdir : (directory (removeDotSegments path)).head? = some '/' :=
      head?_directory_iff.2 hroot
    have happend : (directory (removeDotSegments path) ++ stepsUp n).head? = some '/' := by
      rw [List.head?_append, hdir]
      rfl
    obtain ⟨body, hbody⟩ := List.head?_eq_some_iff.1 happend
    rw [hbody]
    rfl
  · have hname : isDotSegment (stepsUp 0) = false := by decide
    have hslash : '/' ∉ stepsUp 0 := by decide
    have hresolved := removeDotSegments_directory (isResolved_removeDotSegments path)
    rw [← hresolved, ← directory_removeDotSegments_append _ hslash hname, h 0,
      directory_removeDotSegments_append _ hslash hname]

/-- A reference whose path is resolved within the directory of its base. -/
def IsPathRelative (v : Uri) : Prop :=
  v.authority = none ∧ IsRelativePath v.path

/-- Removing dot segments leaves the path of a reference one that is resolved within a directory:
it neither becomes empty nor starts at the root. -/
def StaysRelative (v : Uri) : Prop :=
  v.IsPathRelative → IsRelativePath (removeDotSegments v.path)

theorem merge_of_not_bare (h : ¬(u.authority.isSome ∧ u.path = [])) (p : List Char) :
    u.merge p = directory u.path ++ p :=
  if_neg h

theorem mergeRelative_withFragment (fragment : Option (List Char)) :
    u.mergeRelative (v.withFragment fragment) = (u.mergeRelative v).withFragment fragment := by
  obtain ⟨scheme, authority, path, query, f⟩ := v
  cases authority with
  | some a => rfl
  | none =>
    cases path with
    | nil => rfl
    | cons c rest => rfl

theorem withFragment_mergeRelative (fragment : Option (List Char)) :
    (u.withFragment fragment).mergeRelative v = u.mergeRelative v :=
  rfl

theorem authority_mergeRelative : (u.mergeRelative v).authority = v.authority.or u.authority := by
  unfold mergeRelative
  cases v.authority with
  | some a => rfl
  | none =>
    simp only [Option.isSome_none, Bool.false_eq_true, if_false]
    split <;> rfl

theorem path_mergeRelative_of_isPathRelative (h : v.IsPathRelative) :
    (u.mergeRelative v).path = removeDotSegments (u.merge v.path) := by
  unfold mergeRelative
  rw [h.1, if_neg (by simp), if_neg h.2.1]
  exact if_neg h.2.2

theorem query_mergeRelative_of_isPathRelative (h : v.IsPathRelative) :
    (u.mergeRelative v).query = v.query := by
  unfold mergeRelative
  rw [h.1, if_neg (by simp), if_neg h.2.1]

/-- The normal form of a reference without scheme leads where the reference leads, from every base,
if its path is not resolved within a directory. -/
theorem mergeRelative_normalize (hv : v.scheme = none) (h : ¬v.IsPathRelative) :
    (u.mergeRelative v.normalize).query = (u.mergeRelative v).query ∧
      (u.mergeRelative v.normalize).path = (u.mergeRelative v).path := by
  rw [normalize_of_scheme_eq_none hv]
  unfold mergeRelative
  by_cases ha : v.authority.isSome
  · simp only [ha, if_true, removeDotSegments_idem, and_self]
  · have hnone : v.authority = none := Option.not_isSome_iff_eq_none.1 ha
    rw [if_neg ha, if_neg ha]
    by_cases hpath : v.path = []
    · simp [hpath, removeDotSegments]
    · have hroot : v.path.head? = some '/' := by
        by_contra hroot
        exact h ⟨hnone, hpath, hroot⟩
      obtain ⟨body, hbody⟩ := List.head?_eq_some_iff.1 hroot
      have hroot' : (removeDotSegments v.path).head? = some '/' := by
        rw [hbody]
        rfl
      have hpath' : removeDotSegments v.path ≠ [] := fun he => by
        rw [he] at hroot'
        cases hroot'
      simp only [hpath, hpath', if_false, hroot, hroot', if_true, removeDotSegments_idem, and_self]

/-- The same for the normal form of the base. -/
theorem normalize_mergeRelative (hu : u.scheme = none) (h : ¬v.IsPathRelative) :
    (u.normalize.mergeRelative v).query = (u.mergeRelative v).query ∧
      removeDotSegments (u.normalize.mergeRelative v).path =
        removeDotSegments (u.mergeRelative v).path := by
  rw [normalize_of_scheme_eq_none hu]
  unfold mergeRelative
  by_cases ha : v.authority.isSome
  · simp only [ha, if_true, and_self]
  · have hnone : v.authority = none := Option.not_isSome_iff_eq_none.1 ha
    rw [if_neg ha, if_neg ha]
    by_cases hpath : v.path = []
    · simp [hpath, removeDotSegments_idem]
    · have hroot : v.path.head? = some '/' := by
        by_contra hroot
        exact h ⟨hnone, hpath, hroot⟩
      simp only [hpath, if_false, hroot, if_true, and_self]

/-- A reference path may be resolved before it is merged. -/
theorem removeDotSegments_merge_removeDotSegments (hp : IsRelativePath p)
    (hp' : IsRelativePath (removeDotSegments p)) :
    removeDotSegments (u.merge (removeDotSegments p)) = removeDotSegments (u.merge p) := by
  by_cases hbare : u.authority.isSome ∧ u.path = []
  · unfold merge
    rw [if_pos hbare, if_pos hbare]
    exact removeDotSegments_directory_append_removeDotSegments ['/'] hp hp'
  · rw [merge_of_not_bare hbare, merge_of_not_bare hbare]
    exact removeDotSegments_directory_append_removeDotSegments u.path hp hp'

theorem IsRelative.bare_normalize_iff (h : u.IsRelative) :
    (u.normalize.authority.isSome ∧ u.normalize.path = []) ↔
      (u.authority.isSome ∧ u.path = []) := by
  rw [normalize_of_scheme_eq_none h.scheme]
  refine and_congr_right fun ha => ⟨fun hpath => ?_, fun hpath => ?_⟩
  · rcases h.path ha with hnil | hroot
    · exact hnil
    · obtain ⟨body, hbody⟩ := List.head?_eq_some_iff.1 hroot
      simp only [hbody, removeDotSegments] at hpath
      cases hpath
  · simp only [hpath, removeDotSegments]

theorem IsRelative.merge_normalize (h : u.IsRelative) (hbare : ¬(u.authority.isSome ∧ u.path = []))
    (p : List Char) :
    u.normalize.merge p = directory (removeDotSegments u.path) ++ p := by
  rw [merge_of_not_bare fun hb => hbare (h.bare_normalize_iff.1 hb),
    normalize_of_scheme_eq_none h.scheme]

/-- A base whose directory is kept may be normalized before a path is merged into it. -/
theorem removeDotSegments_merge_normalize (h : u.IsRelative) (hk : KeepsDirectory u.path)
    (hp : IsRelativePath p) :
    removeDotSegments (u.normalize.merge p) = removeDotSegments (u.merge p) := by
  by_cases hbare : u.authority.isSome ∧ u.path = []
  · unfold merge
    rw [if_pos hbare, if_pos (h.bare_normalize_iff.2 hbare)]
  · rw [h.merge_normalize hbare, merge_of_not_bare hbare, hk.append hp]

theorem keepsDirectory_of_merge (h : u.IsRelative)
    (hall : ∀ n, removeDotSegments (u.normalize.merge (stepsUp n)) =
      removeDotSegments (u.merge (stepsUp n))) : KeepsDirectory u.path := by
  by_cases hbare : u.authority.isSome ∧ u.path = []
  · rw [hbare.2]
    decide
  · simp only [h.merge_normalize hbare, merge_of_not_bare hbare] at hall
    exact keepsDirectory_of_stepsUp hall

/-- The reference that is a path alone. -/
def ofPath (path : List Char) : Uri :=
  ⟨none, none, path, none, none⟩

theorem mem_stepsUp {c : Char} {n : Nat} (h : c ∈ stepsUp n) : c = '/' ∨ c = '.' ∨ c = 'y' := by
  rcases Text.mem_join h with rfl | ⟨s, hs, hc⟩
  · exact .inl rfl
  rcases List.mem_append.1 hs with hs | hs
  · rw [List.eq_of_mem_replicate hs] at hc
    have : c = '.' := by simpa [up] using hc
    exact .inr (.inl this)
  · rw [List.mem_singleton.1 hs] at hc
    exact .inr (.inr (List.mem_singleton.1 hc))

theorem isRelative_stepsUp (n : Nat) : (ofPath (stepsUp n)).IsRelative where
  clean := by
    refine ⟨nofun, nofun, fun c hc => ?_, nofun, nofun⟩
    rcases mem_stepsUp hc with rfl | rfl | rfl <;> decide
  scheme := rfl
  authority := nofun
  path := nofun
  brackets := by
    intro _ c hc
    rcases mem_stepsUp hc with rfl | rfl | rfl <;> decide
  question := fun hc => by
    rcases mem_stepsUp hc with h | h | h <;> exact absurd h (by decide)
  writableAuthority := trivial
  writablePath := by
    refine isWritable_join.2 fun s hs => ?_
    rcases List.mem_append.1 hs with hs | hs
    · rw [List.eq_of_mem_replicate hs]
      exact ⟨by decide, by decide, by decide, by decide, trivial⟩
    · rw [List.mem_singleton.1 hs]
      exact ⟨by decide, by decide, trivial⟩
  writableQuery := trivial
  writableFragment := trivial

theorem parse_stepsUp (n : Nat) : parse (stepsUp n) = .ok (ofPath (stepsUp n)) := by
  have hcolon : ¬((ofPath (stepsUp n)).authority = none ∧
      startsLikeScheme (ofPath (stepsUp n)).path) := by
    rintro ⟨-, hc⟩
    have hm := (List.takeWhile_sublist _).subset (of_decide_eq_true hc)
    rcases mem_stepsUp hm with h | h | h <;> exact absurd h (by decide)
  have hchars : (ofPath (stepsUp n)).toChars = stepsUp n := by
    simp [toChars, ofPath, part]
  have hread := parse_toChars (isRelative_stepsUp n) hcolon
  rw [hchars] at hread
  rw [hread, reread_of_isRelative (isRelative_stepsUp n) fun _ hpre => ?_]
  obtain ⟨rest, hrest⟩ := hpre
  refine (isRelativePath_stepsUp n).2 ?_
  rw [← show ['/', '/'] ++ rest = stepsUp n from hrest]
  rfl

end Uri

namespace Reference

variable {base r : Reference} {b s : String} {u v w : Uri}

/-- Two references without scheme that agree in authority, query and fragment are the same exactly
if their paths are the same without dot segments. -/
theorem same_ofUri_iff (hu : u.IsClean) (hv : v.IsClean) (hus : u.scheme = none)
    (hvs : v.scheme = none) (ha : u.authority = v.authority) (hq : u.query = v.query)
    (hf : u.fragment.getD [] = v.fragment.getD []) :
    (ofUri u).same (ofUri v) ↔ Uri.removeDotSegments u.path = Uri.removeDotSegments v.path := by
  rw [same, decide_eq_true_eq, canonical_ofUri hu, canonical_ofUri hv,
    Uri.normalize_of_scheme_eq_none hus, Uri.normalize_of_scheme_eq_none hvs]
  have htext (w : Uri) (path : List Char) (hw : w.scheme = none) :
      (({ w with path } : Uri).withFragment none).toChars =
        Uri.part ['/', '/'] w.authority ++ path ++ Uri.part ['?'] w.query := by
    rw [Uri.toChars_of_scheme_eq_none (by exact hw)]
    exact List.append_nil _
  rw [htext u _ hus, htext v _ hvs, ha, hq]
  change _ ++ '#' :: u.fragment.getD [] = _ ++ '#' :: v.fragment.getD [] ↔ _
  rw [hf, List.append_cancel_right_eq, List.append_cancel_right_eq, List.append_cancel_left_eq]

/-- What a reference without scheme leads to, from a base without scheme. -/
theorem exists_resolve_ofUri (hu : u.IsClean) (hv : v.IsClean) (hus : u.scheme = none)
    (hvs : v.scheme = none) : ∃ fragment, fragment.getD [] = v.fragment.getD [] ∧
      (ofUri u).resolve (ofUri v) =
        ofUri ((u.normalize.mergeRelative v.normalize).withFragment fragment) := by
  obtain ⟨f, huri, -⟩ := exists_uri_ofUri hu
  obtain ⟨g, hvri, hg⟩ := exists_uri_ofUri hv
  refine ⟨g, ?_, ?_⟩
  · rw [hg, Uri.normalize_of_scheme_eq_none hvs]
  · rw [resolve_of_relative ((scheme_ofUri_eq_none_iff hu).2 hus)
      ((scheme_ofUri_eq_none_iff hv).2 hvs), huri, hvri, Uri.withFragment_mergeRelative,
      Uri.mergeRelative_withFragment]

/-- A reference leads where it leads from another base of the same authority if path and query
agree. -/
theorem same_resolve_ofUri_iff (hu : u.IsRelative) (hv : v.IsRelative) (hw : w.IsRelative)
    (ha : w.authority = u.authority)
    (hq : (u.normalize.mergeRelative v.normalize).query = (w.mergeRelative v).query) :
    ((ofUri u).resolve (ofUri v)).same (ofUri (w.resolve v)) ↔
      Uri.removeDotSegments (u.normalize.mergeRelative v.normalize).path =
        Uri.removeDotSegments (w.mergeRelative v).path := by
  obtain ⟨fragment, hf, hresolve⟩ := exists_resolve_ofUri hu.clean hv.clean hu.scheme hv.scheme
  have hnu := Uri.normalize_of_scheme_eq_none hu.scheme
  have hnv := Uri.normalize_of_scheme_eq_none hv.scheme
  rw [hresolve, Uri.resolve_of_scheme_eq_none hw.scheme hv.scheme]
  refine same_ofUri_iff ?_ (hw.clean.mergeRelative hv.clean) ?_ ?_ ?_ hq ?_
  · refine (hu.clean.normalize.mergeRelative hv.clean.normalize).withFragment ?_
    rw [hf]
    exact hv.clean.fragment
  · exact Uri.scheme_mergeRelative.trans (by rw [hnu, hu.scheme])
  · exact Uri.scheme_mergeRelative.trans hw.scheme
  · change (u.normalize.mergeRelative v.normalize).authority = _
    rw [Uri.authority_mergeRelative, Uri.authority_mergeRelative, hnu, hnv, ha]
  · rw [Uri.fragment_mergeRelative]
    exact hf

/-- A path that is not relative does not meet the path of the base. -/
theorem same_resolve_of_not_isPathRelative (hu : u.IsRelative) (hv : v.IsRelative)
    (hp : ¬v.IsPathRelative) :
    ((ofUri u).resolve (ofUri v)).same (ofUri (u.resolve v)) ∧
      ((ofUri u).resolve (ofUri v)).same (ofUri (u.normalize.resolve v)) := by
  obtain ⟨hq, hpath⟩ := Uri.mergeRelative_normalize (u := u.normalize) hv.scheme hp
  obtain ⟨hq', hpath'⟩ := Uri.normalize_mergeRelative hu.scheme hp
  constructor
  · refine (same_resolve_ofUri_iff hu hv hu rfl (hq.trans hq')).2 ?_
    rw [hpath, hpath']
  · refine (same_resolve_ofUri_iff hu hv hu.normalize ?_ hq).2 ?_
    · rw [Uri.normalize_of_scheme_eq_none hu.scheme]
    · rw [hpath]

/-- A relative path is merged, before or after normalization. -/
theorem same_resolve_iff_merge (hu : u.IsRelative) (hv : v.IsRelative) (hw : w.IsRelative)
    (ha : w.authority = u.authority) (hp : v.IsPathRelative) (hstays : v.StaysRelative) :
    ((ofUri u).resolve (ofUri v)).same (ofUri (w.resolve v)) ↔
      Uri.removeDotSegments (u.normalize.merge v.path) =
        Uri.removeDotSegments (w.merge v.path) := by
  have hnv := Uri.normalize_of_scheme_eq_none hv.scheme
  have hp' : v.normalize.IsPathRelative := by
    rw [hnv]
    exact ⟨hp.1, hstays hp⟩
  have hpath : v.normalize.path = Uri.removeDotSegments v.path := by rw [hnv]
  have hquery : v.normalize.query = v.query := by rw [hnv]
  have hq : (u.normalize.mergeRelative v.normalize).query = (w.mergeRelative v).query := by
    rw [Uri.query_mergeRelative_of_isPathRelative hp', Uri.query_mergeRelative_of_isPathRelative hp,
      hquery]
  rw [same_resolve_ofUri_iff hu hv hw ha hq, Uri.path_mergeRelative_of_isPathRelative hp',
    Uri.path_mergeRelative_of_isPathRelative hp, hpath, Uri.removeDotSegments_idem,
    Uri.removeDotSegments_idem, Uri.removeDotSegments_merge_removeDotSegments hp.2 (hstays hp)]

theorem eq_ofUri_of_parse (hr : parse s = .ok r) (hv : Uri.parse s.toList = .ok v) :
    r = ofUri v := by
  obtain ⟨v', hv', rfl⟩ := exists_uri_of_parse hr
  rw [Except.ok.inj (hv'.symm.trans hv)]

theorem parse_stepsUp (n : Nat) :
    Uri.parse (String.ofList (Uri.stepsUp n)).toList = .ok (.ofPath (Uri.stepsUp n)) ∧
      parse (String.ofList (Uri.stepsUp n)) = .ok (ofUri (.ofPath (Uri.stepsUp n))) := by
  have hparse : Uri.parse (String.ofList (Uri.stepsUp n)).toList =
      .ok (.ofPath (Uri.stepsUp n)) := by
    rw [String.toList_ofList, Uri.parse_stepsUp]
  refine ⟨hparse, ?_⟩
  rw [parse, hparse]

/-- **When normalization does not change what a reference leads to.** A reference whose path stays
relative leads where it leads from the normal form of its base. A reference whose path is not
relative leads there from the base itself, and all references do exactly if the base keeps its
directory. -/
theorem resolve_normal_iff (hbase : parse b = .ok base) (hb : Uri.parse b.toList = .ok u)
    (hu : u.scheme = none) :
    (∀ s r v, parse s = .ok r → Uri.parse s.toList = .ok v → v.scheme = none → v.StaysRelative →
      (base.resolve r).same (ofUri (u.normalize.resolve v)) ∧
        (¬v.IsPathRelative → (base.resolve r).same (ofUri (u.resolve v)))) ∧
    ((∀ s r v, parse s = .ok r → Uri.parse s.toList = .ok v → v.scheme = none →
        v.StaysRelative → (base.resolve r).same (ofUri (u.resolve v))) ↔
      Uri.KeepsDirectory u.path) := by
  obtain rfl := eq_ofUri_of_parse hbase hb
  have hrel := Uri.isRelative_of_parse hb hu
  have hauthority : u.normalize.authority = u.authority := by
    rw [Uri.normalize_of_scheme_eq_none hu]
  refine ⟨fun s r v hr hv hvs hstays => ?_, fun hall => ?_, fun hk s r v hr hv hvs hstays => ?_⟩
  · obtain rfl := eq_ofUri_of_parse hr hv
    have hvrel := Uri.isRelative_of_parse hv hvs
    refine ⟨?_, fun hp => (same_resolve_of_not_isPathRelative hrel hvrel hp).1⟩
    by_cases hp : v.IsPathRelative
    · exact (same_resolve_iff_merge hrel hvrel hrel.normalize hauthority hp hstays).2 rfl
    · exact (same_resolve_of_not_isPathRelative hrel hvrel hp).2
  · refine Uri.keepsDirectory_of_merge hrel fun n => ?_
    obtain ⟨hv, hr⟩ := parse_stepsUp n
    have hp : (Uri.ofPath (Uri.stepsUp n)).IsPathRelative := ⟨rfl, Uri.isRelativePath_stepsUp n⟩
    have hstays : (Uri.ofPath (Uri.stepsUp n)).StaysRelative := by
      intro _
      change Uri.IsRelativePath (Uri.removeDotSegments (Uri.stepsUp n))
      rw [Uri.removeDotSegments_of_isResolved (Uri.isResolved_stepsUp n)]
      exact Uri.isRelativePath_stepsUp n
    have hsame := hall _ _ _ hr hv rfl hstays
    exact (same_resolve_iff_merge hrel (Uri.isRelative_stepsUp n) hrel rfl hp hstays).1 hsame
  · obtain rfl := eq_ofUri_of_parse hr hv
    have hvrel := Uri.isRelative_of_parse hv hvs
    by_cases hp : v.IsPathRelative
    · exact (same_resolve_iff_merge hrel hvrel hrel rfl hp hstays).2
        (Uri.removeDotSegments_merge_normalize hrel hk hp.2)
    · exact (same_resolve_of_not_isPathRelative hrel hvrel hp).1

/-- A base with a dot segment within its directory. -/
def dotted : Uri :=
  .ofPath "/a/./b".toList

/-- A reference out of the directory of its base. -/
def outside : Uri :=
  .ofPath "../c".toList

theorem resolve_normal_dotted :
    Uri.parse "/a/./b".toList = .ok dotted ∧ Uri.parse "../c".toList = .ok outside ∧
      ((ofUri dotted).resolve (ofUri outside)).same (ofUri (dotted.resolve outside)) := by
  have hb : Uri.parse "/a/./b".toList = .ok dotted := by cbv
  have hbase : parse "/a/./b" = .ok (ofUri dotted) := by cbv
  have hs : Uri.parse "../c".toList = .ok outside := by cbv
  have hr : parse "../c" = .ok (ofUri outside) := by cbv
  have hstays : outside.StaysRelative := fun _ => by
    constructor <;> decide
  have hkeeps : Uri.KeepsDirectory dotted.path := by decide
  exact ⟨hb, hs, (resolve_normal_iff hbase hb rfl).2.2 hkeeps _ _ _ hr hs rfl hstays⟩

/-- A base that ends in a step up. -/
def rising : Uri :=
  .ofPath "/a/..".toList

/-- **A base that does not keep its directory**: the step up at its end is taken before the last
segment goes. -/
theorem resolve_normal_rising :
    Uri.parse "/a/..".toList = .ok rising ∧ Uri.parse "x".toList = .ok (.ofPath "x".toList) ∧
      ((ofUri rising).resolve (ofUri (.ofPath "x".toList))).text = "/x" ∧
      (ofUri (rising.resolve (.ofPath "x".toList))).text = "/a/x" ∧
      ¬((ofUri rising).resolve (ofUri (.ofPath "x".toList))).same
        (ofUri (rising.resolve (.ofPath "x".toList))) := by
  refine ⟨by cbv, by cbv, by cbv, by cbv, ?_⟩
  have hdiffer : ((ofUri rising).resolve (ofUri (.ofPath "x".toList))).same
      (ofUri (rising.resolve (.ofPath "x".toList))) = false := by
    cbv
  rw [hdiffer]
  exact Bool.false_ne_true

end Reference

end JsonSchema
