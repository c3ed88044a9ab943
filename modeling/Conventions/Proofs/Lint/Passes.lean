import Conventions.Lint.Passes
import Mathlib.Tactic.Common

/-!
# Passes that follow each other

A run is a list of passes, each on the workspace that the one before it left. All of them
but the last one leave a problem, and the report is about the findings of the last one.
-/

namespace Conventions

/-- A pass: the workspace it starts from, what it finds, and the workspace it leaves. -/
structure Pass where
  before : Workspace
  findings : List Finding
  after : Workspace

/-- A pass finds no problem, or fixes all it finds. -/
def Pass.IsClean (pass : Pass) : Prop := ∀ finding ∈ pass.findings, finding.valid = true

section

variable {base : RepoPath} {configFile : String} {fix : Bool}

/-- Passes that lead from one workspace to another one. -/
def Passes (base : RepoPath) (configFile : String) (fix : Bool) :
    Workspace → List Pass → Workspace → Prop
  | workspace, [], left => workspace = left
  | workspace, pass :: rest, left =>
    pass.before = workspace ∧
      lint workspace base configFile fix = (.ok pass.findings, pass.after) ∧
      Passes base configFile fix pass.after rest left

/-- What is known after passes. -/
def Progress.recordAll (progress : Progress) (passes : List Pass) : Progress :=
  passes.foldl (fun progress pass => progress.record pass.findings) progress

/-- The last of several passes leads from the workspace that the others left. -/
theorem Passes.last {workspace left : Workspace} {earlier : List Pass} {last : Pass}
    (h : Passes base configFile fix workspace (earlier ++ [last]) left) :
    lint last.before base configFile fix = (.ok last.findings, left) := by
  induction earlier generalizing workspace with
  | nil =>
    obtain ⟨rfl, hlint, rfl⟩ := h
    exact hlint
  | cons pass rest ih => exact ih h.2.2

/-- A pass has no more to report if it is clean. -/
theorem Progress.isClean_iff {progress : Progress} {findings : List Finding} :
    (progress.record findings).isClean = true ↔ ∀ finding ∈ findings, finding.valid = true := by
  simp [isClean, record]

/-- Where passes may go on, they end if there is no problem, and otherwise there is one more. -/
theorem Progress.finish_succ_eq_ok {limit : Nat} {progress result : Progress}
    {workspace left : Workspace}
    (h : finish base configFile fix (limit + 1) progress workspace = (.ok result, left)) :
    (progress.isClean = true ∧ result = progress ∧ left = workspace) ∨
      ∃ findings after, progress.isClean = false ∧
        lint workspace base configFile fix = (.ok findings, after) ∧
        finish base configFile fix limit (progress.record findings) after = (.ok result, left) := by
  unfold finish at h
  by_cases hclean : progress.isClean = true
  · rw [if_pos hclean] at h
    cases h
    exact Or.inl ⟨hclean, rfl, rfl⟩
  · rw [if_neg hclean] at h
    unfold Progress.pass at h
    rcases hlint : lint workspace base configFile fix with ⟨failure | findings, after⟩
    · simp only [hlint] at h
      cases h
    · simp only [hlint] at h
      exact Or.inr ⟨findings, after, by simpa using hclean, rfl, h⟩

/-- How passes go on behind a first one: as long as there are problems, and no more often
than the limit says. -/
theorem Progress.finish_eq_ok {limit : Nat} (first : Pass) {progress result : Progress}
    {workspace left : Workspace}
    (h : finish base configFile fix limit (progress.record first.findings) workspace =
      (.ok result, left)) :
    ∃ more, Passes base configFile fix workspace more left ∧
      result = (progress.record first.findings).recordAll more ∧
      (∀ pass ∈ (first :: more).dropLast, ¬ pass.IsClean) ∧
      ∀ last, (first :: more).getLast? = some last → last.IsClean ∨ more.length = limit := by
  induction limit generalizing first progress workspace with
  | zero =>
    cases h
    exact ⟨[], rfl, rfl, by simp, fun last _ => Or.inr rfl⟩
  | succ limit ih =>
    rcases finish_succ_eq_ok h with ⟨hclean, rfl, rfl⟩ | ⟨findings, after, hproblem, hlint, hrest⟩
    · refine ⟨[], rfl, rfl, by simp, fun last hlast => Or.inl ?_⟩
      cases hlast
      exact isClean_iff.mp hclean
    · obtain ⟨more, hmore, hresult, hproblems, hlast⟩ := ih ⟨workspace, findings, after⟩ hrest
      refine ⟨⟨workspace, findings, after⟩ :: more, ⟨rfl, hlint, hmore⟩, hresult, ?_, ?_⟩
      · rw [List.dropLast_cons_of_ne_nil (by simp)]
        rintro pass (_ | ⟨_, hpass⟩)
        · intro hvalid
          rw [isClean_iff.mpr hvalid] at hproblem
          cases hproblem
        · exact hproblems pass hpass
      · intro last hgetLast
        rw [List.getLast?_cons_cons] at hgetLast
        rcases hlast last hgetLast with hvalid | hlength
        · exact Or.inl hvalid
        · exact Or.inr (by simpa using hlength)

/-- Passes go on no more often than the limit says. -/
theorem Progress.passes_finish_le {limit : Nat} {progress result : Progress}
    {workspace left : Workspace}
    (h : finish base configFile fix limit progress workspace = (.ok result, left)) :
    result.passes ≤ progress.passes + limit := by
  induction limit generalizing progress workspace with
  | zero =>
    cases h
    exact Nat.le_refl _
  | succ limit ih =>
    rcases finish_succ_eq_ok h with ⟨-, rfl, -⟩ | ⟨findings, after, -, -, hrest⟩
    · omega
    · have hmore := ih hrest
      simp only [record] at hmore
      omega

/-- A run with a report has a first pass, and goes on behind it as far as it may. -/
theorem exists_finish_of_runPasses {workspace left : Workspace} {report : LintReport}
    (h : runPasses workspace base configFile fix = (.ok report, left)) :
    ∃ findings after progress, lint workspace base configFile fix = (.ok findings, after) ∧
      Progress.finish base configFile fix (furtherPasses fix) (({} : Progress).record findings)
        after = (.ok progress, left) ∧
      report = progress.report := by
  unfold runPasses Progress.pass at h
  rcases hlint : lint workspace base configFile fix with ⟨failure | findings, after⟩
  · simp only [hlint] at h
    cases h
  · simp only [hlint] at h
    rcases hfinish : Progress.finish base configFile fix (furtherPasses fix)
      (({} : Progress).record findings) after with ⟨failure | progress, final⟩
    · simp only [hfinish] at h
      cases h
    · simp only [hfinish] at h
      cases h
      exact ⟨findings, after, progress, rfl, hfinish, rfl⟩

/-- A run has no more passes than the first one and those that are allowed behind it. -/
theorem passes_le_of_runPasses {workspace left : Workspace} {report : LintReport}
    (h : runPasses workspace base configFile fix = (.ok report, left)) :
    report.passes ≤ furtherPasses fix + 1 := by
  obtain ⟨findings, after, progress, -, hfinish, rfl⟩ := exists_finish_of_runPasses h
  have hle := Progress.passes_finish_le hfinish
  simp only [Progress.record] at hle
  change progress.passes ≤ _
  omega

/-- A run with a report: its passes, of which all but the last one leave problems, and the
last one leaves none unless the limit is reached. -/
theorem runPasses_eq_ok {workspace left : Workspace} {report : LintReport}
    (h : runPasses workspace base configFile fix = (.ok report, left)) :
    ∃ earlier last, Passes base configFile fix workspace (earlier ++ [last]) left ∧
      report = (({} : Progress).recordAll (earlier ++ [last])).report ∧
      (∀ pass ∈ earlier, ¬ pass.IsClean) ∧
      (last.IsClean ∨ earlier.length = furtherPasses fix) := by
  obtain ⟨findings, after, progress, hlint, hfinish, rfl⟩ := exists_finish_of_runPasses h
  obtain ⟨more, hmore, rfl, hproblems, hlast⟩ :=
    Progress.finish_eq_ok ⟨workspace, findings, after⟩ hfinish
  generalize hfirst : (⟨workspace, findings, after⟩ : Pass) = first at hproblems hlast
  have hne : first :: more ≠ [] := List.cons_ne_nil _ _
  have hsplit := List.dropLast_concat_getLast hne
  refine ⟨(first :: more).dropLast, (first :: more).getLast hne, ?_, ?_, hproblems, ?_⟩
  · rw [hsplit, ← hfirst]
    exact ⟨rfl, hlint, hmore⟩
  · rw [hsplit, ← hfirst]
    rfl
  · rcases hlast _ (List.getLast?_eq_some_getLast hne) with hclean | hlength
    · exact Or.inl hclean
    · exact Or.inr (by simpa using hlength)

end

/-- Restoring the first fix of a finding does not make it valid or invalid. -/
theorem FirstFixes.valid_restore (fixes : FirstFixes) (finding : Finding) :
    (fixes.restore finding).valid = finding.valid := by
  unfold restore
  split <;> rfl

/-- The problems in a report are those of the last pass. -/
theorem problems_of_recordAll (progress : Progress) (earlier : List Pass) (last : Pass) :
    (progress.recordAll (earlier ++ [last])).report.problems =
      last.findings.countP (!·.valid) := by
  unfold Progress.recordAll
  rw [List.foldl_append]
  simp only [List.foldl_cons, List.foldl_nil, Progress.report, Progress.record, LintReport.of,
    LintReport.problems, List.countP_map]
  congr 1
  funext finding
  simp [FirstFixes.valid_restore]

/-- A report counts its passes. -/
theorem passes_of_recordAll (progress : Progress) (passes : List Pass) :
    (progress.recordAll passes).report.passes = progress.passes + passes.length := by
  induction passes generalizing progress with
  | nil => rfl
  | cons pass rest ih =>
    have hrest := ih (progress.record pass.findings)
    rw [List.length_cons, Nat.add_comm rest.length 1, ← Nat.add_assoc]
    exact hrest

end Conventions
