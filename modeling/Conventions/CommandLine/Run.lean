import Conventions.CommandLine.Invocation
import Conventions.Lint.Passes
import Conventions.Report.Json
import Conventions.Report.Text

/-!
# Running commands

What each command prints, and its exit code: zero if nothing is wrong, two if problems
are reported. A failure is left to the caller.
-/

namespace Conventions.CommandLine

/-- What a command has printed, and its exit code. -/
structure Answer where
  output : String
  exitCode : Nat := 0
  deriving DecidableEq, Repr, Inhabited

/-- The path from the root to something that has to be there. -/
def located (workspace : Workspace) (path : RepoPath) : Except Failure RepoPath :=
  (workspace.absolute path).mapError fun _ => .baseDirNotFound path

/-- The expression that resources have to match to be reported. -/
def compileFilter : Option String → Except Failure (Option Regex)
  | none => .ok none
  | some text =>
    match Regex.parse text with
    | .ok regex => .ok (some regex)
    | .error problem => .error (.regex problem.text)

/-- The findings on resources that match a filter. -/
def keepMatching (filter? : Option Regex) (findings : List Finding) : List Finding :=
  match filter? with
  | none => findings
  | some filter => findings.filter fun finding => filter.isMatch finding.resource

/-- The text of a report in a form. -/
def render (workspace : Workspace) (verbose : Bool) (format : ReportFormat) (fixed : Nat)
    (findings : List Finding) : String :=
  match format with
  | .text => Report.text (Report.Style.relativeTo workspace.currentPath verbose) fixed findings
  | .json => Report.json findings

/-- The exit code for findings. -/
def exitCodeFor (findings : List Finding) : Nat := if findings.all (·.valid) then 0 else 2

/-- Lints and reports. -/
def runLint (workspace : Workspace) (invocation : Invocation) (fix : Bool)
    (filter? : Option String) (format : ReportFormat) : Outcome Answer :=
  let prepared : Except Failure (RepoPath × Option Regex) := do
    return (← located workspace invocation.base, ← compileFilter filter?)
  match prepared with
  | .error failure => (.error failure, workspace)
  | .ok (base, filter?) =>
    match runPasses workspace base invocation.configFile fix with
    | (.error failure, workspace) => (.error failure, workspace)
    | (.ok report, workspace) =>
      let findings := keepMatching filter? report.findings
      let output := render workspace invocation.verbose format report.fixed findings
      (.ok ⟨output, exitCodeFor findings⟩, workspace)

/-- Shows the configuration of a directory. -/
def runShowConfig (workspace : Workspace) (invocation : Invocation) (path? : Option RepoPath) :
    Except Failure Answer := do
  let base ← located workspace invocation.base
  let target ← match path? with
    | some path => located workspace path
    | none => .ok base
  let resolution ← Resolution.resolve workspace target base invocation.configFile
  return { output := resolution.text }

/-- Does what an invocation asks for. -/
def run (workspace : Workspace) (invocation : Invocation) : Outcome Answer :=
  match invocation.action with
  | .lint fix filter? format => runLint workspace invocation fix filter? format
  | .showConfig path? => (runShowConfig workspace invocation path?, workspace)
  | .listRules examples => (.ok { output := Rule.catalogue examples }, workspace)

end Conventions.CommandLine
