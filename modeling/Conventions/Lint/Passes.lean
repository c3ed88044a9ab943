import Conventions.Lint.Basic

/-!
# Passes

A fix can bring other problems to light or solve them, so a repository is linted again
and again until nothing is left to do. The first outcome of a fix is the one that is
reported in the end.
-/

namespace Conventions

/-- How often a repository is linted at most when it is fixed. -/
def maxPasses : Nat := 10

/-- What the fix of a finding would put in order: a rule and a resource. -/
def Finding.fixKey (finding : Finding) : String := finding.rule ++ ":" ++ finding.resource

/-- The first fixes, each under the key of what it puts in order. -/
abbrev FirstFixes := List (String × Fix)

namespace FirstFixes

/-- The first fix for a key. -/
def first? (key : String) (fixes : FirstFixes) : Option Fix :=
  (List.find? (fun entry => entry.1 == key) fixes).map (·.2)

/-- Adds the fix of a finding, unless there is one for its key. -/
def add (fixes : FirstFixes) (finding : Finding) : FirstFixes :=
  match finding.fix?, fixes.first? finding.fixKey with
  | some fix, none => fixes ++ [(finding.fixKey, fix)]
  | _, _ => fixes

/-- Adds the fixes of findings, in their order. -/
def addAll (fixes : FirstFixes) (findings : List Finding) : FirstFixes := findings.foldl add fixes

/-- The finding with the first fix for its key. -/
def restore (fixes : FirstFixes) (finding : Finding) : Finding :=
  match fixes.first? finding.fixKey with
  | some fix => finding.withFix fix
  | none => finding

end FirstFixes

/-- What is left after the last pass. -/
structure LintReport where
  findings : List Finding
  /-- How many findings were fixed, in any pass. -/
  fixed : Nat
  passes : Nat
  deriving Inhabited

namespace LintReport

/-- The report on the last of several passes. -/
def of (fixes : FirstFixes) (findings : List Finding) (passes : Nat) : LintReport where
  findings := findings.map fixes.restore
  fixed := findings.countP fun finding =>
    (fixes.first? finding.fixKey).any fun fix => fix.state == .fixed
  passes

/-- How many problems are left. -/
def problems (report : LintReport) : Nat := report.findings.countP (!·.valid)

end LintReport

/-- What is known after some passes. -/
structure Progress where
  fixes : FirstFixes := []
  /-- The findings of the last pass. -/
  findings : List Finding := []
  passes : Nat := 0

namespace Progress

/-- Whether the last pass has left no problem. -/
def isClean (progress : Progress) : Bool := progress.findings.all (·.valid)

/-- The report if the last pass was the final one. -/
def report (progress : Progress) : LintReport :=
  LintReport.of progress.fixes progress.findings progress.passes

/-- What is known after one more pass with given findings. -/
def record (progress : Progress) (findings : List Finding) : Progress :=
  ⟨progress.fixes.addAll findings, findings, progress.passes + 1⟩

section

variable (base : RepoPath) (configFile : String) (fix : Bool)

/-- One more pass. -/
def pass (progress : Progress) (workspace : Workspace) : Outcome Progress :=
  match lint workspace base configFile fix with
  | (.error failure, workspace) => (.error failure, workspace)
  | (.ok findings, workspace) => (.ok (progress.record findings), workspace)

/-- Passes as long as there are problems, but no more often than a limit says. -/
def finish : (limit : Nat) → Progress → Workspace → Outcome Progress
  | 0, progress, workspace => (.ok progress, workspace)
  | limit + 1, progress, workspace =>
    if progress.isClean then (.ok progress, workspace)
    else match progress.pass base configFile fix workspace with
      | (.error failure, workspace) => (.error failure, workspace)
      | (.ok progress, workspace) => finish limit progress workspace

end

end Progress

/-- How often a repository may be linted after the first time. -/
def furtherPasses (fix : Bool) : Nat := if fix then maxPasses - 1 else 0

/-- Lints a repository. When it is fixed, passes are repeated as long as there are
problems, up to a limit. -/
def runPasses (workspace : Workspace) (base : RepoPath) (configFile : String) (fix : Bool) :
    Outcome LintReport :=
  match Progress.pass base configFile fix {} workspace with
  | (.error failure, workspace) => (.error failure, workspace)
  | (.ok progress, workspace) =>
    let (outcome, workspace) :=
      Progress.finish base configFile fix (furtherPasses fix) progress workspace
    (outcome.map Progress.report, workspace)

end Conventions
