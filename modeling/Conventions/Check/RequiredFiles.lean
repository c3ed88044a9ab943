import Conventions.Check.Basic

/-!
# Required files

A module has to have certain files, or folders of these names.
-/

namespace Conventions.RequiredFiles

/-- Checks that a file of a module is there. -/
def checkFile (workspace : Workspace) (module : RepoModule) (name : String) : Finding :=
  let file := module.file name
  let found := workspace.contains file
  (Finding.of .requiredFiles found file.text
    (if found then "Required file found" else "Required file not found")).about module

/-- Checks a module. -/
def check (workspace : Workspace) (module : RepoModule) : List Finding :=
  match module.options? .requiredFiles with
  | some (.requiredFiles files) => files.map (checkFile workspace module)
  | _ => []

end Conventions.RequiredFiles
