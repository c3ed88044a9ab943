import Conventions.Check.Basic

/-!
# Workflow files

The name of a workflow file starts with the name of a module and may have to end with
one of certain suffixes. Where it is required, every module has a workflow file for
each suffix.
-/

namespace Conventions.Workflows

/-- The folder with the workflow files. -/
def folder (base : RepoPath) : RepoPath := base.join ".github/workflows"

/-- The names of the files in a folder, in ascending order. -/
def filesIn (workspace : Workspace) (folder : RepoPath) : List String :=
  match workspace.find folder with
  | .ok tree => (tree.entries.filter fun entry => !entry.2.isFolder).map (·.1)
  | .error _ => []

/-- Whether a file has a suffix before its extension; the empty one is always there. -/
def hasSuffix (file suffix : String) : Bool :=
  suffix.isEmpty || Text.endsWith file (suffix ++ ".yml") || Text.endsWith file (suffix ++ ".yaml")

/-- The modules whose names a file starts with. -/
def owners (modules : List RepoModule) (file : String) : List RepoModule :=
  modules.filter fun module => Text.startsWith file module.name

/-- Checks the name of a workflow file. It belongs to the last of the modules whose names
it starts with. -/
def checkFile (folder : RepoPath) (modules : List RepoModule) (suffixes : List String)
    (file : String) : Finding :=
  let resource := (folder.join file).text
  match (owners modules file).getLast? with
  | none =>
    Finding.of .workflowNames false resource "File should have the name of a module as prefix"
  | some owner =>
    if suffixes.any (hasSuffix file) then
      (Finding.of .workflowNames true resource "Workflow file name is correct").about owner
    else
      Finding.of .workflowNames false resource
        ("File name suffix should be one of " ++ ",".intercalate suffixes)

/-- Checks all workflow files, under the setting of the base directory. -/
def check (scope : Scope) (workspace : Workspace) : Except Failure (List Finding) :=
  match scope.config.rule? Rule.workflowNames.name with
  | none => .ok []
  | some setting => do
    match ← Rule.workflowNames.options setting with
    | .workflows _ suffixes =>
      let folder := folder scope.base
      return (filesIn workspace folder).map (checkFile folder scope.modules suffixes)
    | _ => return []

/-- The text of the expression for the names of the workflow files of a module with a
suffix. -/
def filePattern (module suffix : String) : String :=
  "^" ++ Regex.escape module ++ ".*" ++ Regex.escape suffix ++ "\\.ya?ml$"

/-- Checks that there is a workflow file of a module for a suffix. -/
def checkSuffix (folder : RepoPath) (files : List String) (module : RepoModule)
    (suffix : String) : Except Failure (List Finding) := do
  let pattern ← (Regex.read (filePattern module.name suffix)).mapError
    fun problem => .regex problem.text
  let finding := match files.find? pattern.isMatch with
    | some file =>
      Finding.of .workflowNames true (folder.join file).text "Required gh workflow file found"
    | none =>
      Finding.of .workflowNames false (folder.join (module.name ++ suffix ++ ".yml")).text
        "Missing required gh workflow file"
  return [finding.about module]

/-- Checks a module. -/
def checkModule (folder : RepoPath) (files : List String) (module : RepoModule) :
    Except Failure (List Finding) :=
  match module.options? .workflowNames with
  | some (.workflows true suffixes) => checkAll (checkSuffix folder files module) suffixes
  | _ => .ok []

/-- Checks modules. -/
def checkModules (base : RepoPath) (workspace : Workspace) (modules : List RepoModule) :
    Except Failure (List Finding) :=
  let folder := folder base
  checkAll (checkModule folder (filesIn workspace folder)) modules

end Conventions.Workflows
