import Conventions.Check.Folders
import Conventions.Check.ModuleName
import Conventions.Check.PackageName
import Conventions.Check.ParentFolder
import Conventions.Check.RequiredFiles
import Conventions.Check.ServiceName
import Conventions.Check.Workflows
import Conventions.SameContents.Reference
import Conventions.Modules.Discovery

/-!
# Linting

All rules run once over a repository, in a fixed order. Each sees the workspace as the
ones before it left it, and what they wrote stays even if a later one fails.
-/

namespace Conventions

/-- A result or a failure, and the workspace that is left in either case. -/
abbrev Outcome (α : Type) := Except Failure α × Workspace

/-- What a rule says about the repository as a whole. -/
def Rule.checkBase (rule : Rule) (scope : Scope) (workspace : Workspace) :
    Except Failure (List Finding) :=
  match rule with
  | .workflowNames => Workflows.check scope workspace
  | _ => .ok []

/-- What a rule says about modules in which it is on. -/
def Rule.checkModules (rule : Rule) (scope : Scope) (workspace : Workspace)
    (modules : List RepoModule) : Outcome (List Finding) :=
  match rule with
  | .packageName =>
    let (found, workspace) :=
      checkEach (PackageName.nameCheck.checkModule scope.fix) workspace modules
    (.ok found, workspace)
  | .serviceName =>
    let (found, workspace) :=
      checkEach (ServiceName.nameCheck.checkModule scope.fix) workspace modules
    (.ok found, workspace)
  | .namePattern => (.ok (modules.flatMap ModuleName.checkPattern), workspace)
  | .uniqueName => (.ok (modules.map (ModuleName.checkUnique modules)), workspace)
  | .requiredFiles => (.ok (modules.flatMap (RequiredFiles.check workspace)), workspace)
  | .folderStructure => (checkAll (Folders.check workspace) modules, workspace)
  | .parentFolder => (checkAll (ParentFolder.check scope.base) modules, workspace)
  | .workflowNames => (Workflows.checkModules scope.base workspace modules, workspace)
  | .sameContents =>
    (.ok (SameContents.check Similarity.doubles workspace scope.modules modules), workspace)

/-- Runs a rule: on the repository as a whole if the base directory has it on, then on
the modules that have it on. -/
def Rule.run (rule : Rule) (scope : Scope) (workspace : Workspace) :
    Outcome (List Finding) :=
  match if scope.config.ruleEnabled rule.name then rule.checkBase scope workspace else .ok [] with
  | .error failure => (.error failure, workspace)
  | .ok found =>
    let modules := scope.modules.filter fun module => module.ruleEnabled rule
    match rule.checkModules scope workspace modules with
    | (.error failure, workspace) => (.error failure, workspace)
    | (.ok more, workspace) => (.ok (found ++ more), workspace)

/-- Runs rules one after the other until one fails. -/
def runRules (scope : Scope) (workspace : Workspace) : List Rule → Outcome (List Finding)
  | [] => (.ok [], workspace)
  | rule :: rest =>
    match rule.run scope workspace with
    | (.error failure, workspace) => (.error failure, workspace)
    | (.ok found, workspace) =>
      match runRules scope workspace rest with
      | (.error failure, workspace) => (.error failure, workspace)
      | (.ok more, workspace) => (.ok (found ++ more), workspace)

/-- What the rules see of the repository in a base directory. -/
def Scope.load (workspace : Workspace) (base : RepoPath) (configFile : String) (fix : Bool) :
    Except Failure Scope :=
  if workspace.isFolder base then do
    let resolution ← Resolution.resolve workspace base base configFile
    let modules ← RepoModule.discover workspace base resolution.config configFile
    return { base, config := resolution.config, modules, fix }
  else .error (.baseDirNotFound base)

/-- Runs all rules once. The findings are in the order of a report. -/
def lint (workspace : Workspace) (base : RepoPath) (configFile : String) (fix : Bool) :
    Outcome (List Finding) :=
  match Scope.load workspace base configFile fix with
  | .error failure => (.error failure, workspace)
  | .ok scope =>
    let (outcome, workspace) := runRules scope workspace Rule.all
    (outcome.map fun findings => sortBy Finding.notAfter findings, workspace)

end Conventions
