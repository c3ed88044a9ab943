import Conventions.Check.Basic

/-!
# Names of modules

The name of a module has to match an expression, and no other module may have it.
-/

namespace Conventions.ModuleName

/-- Checks the name of a module against its expression. -/
def checkPattern (module : RepoModule) : List Finding :=
  match module.options? .namePattern with
  | some (.namePattern text regex) =>
    let finding :=
      if regex.isMatch module.name then
        Finding.of .namePattern true module.path.text "Module name is valid"
      else
        Finding.of .namePattern false module.path.text
          ("Module name should match regex \"" ++ text ++ "\"")
    [finding.about module]
  | _ => []

/-- The first module at another place with the name of a module. -/
def namesake? (modules : List RepoModule) (module : RepoModule) : Option RepoModule :=
  modules.find? fun other => other.name == module.name && !other.path.same module.path

/-- Checks that no other module has the name of a module. -/
def checkUnique (modules : List RepoModule) (module : RepoModule) : Finding :=
  let finding := match namesake? modules module with
    | some other =>
      Finding.of .uniqueName false module.path.text
        ("Module has the same name as '" ++ other.path.text ++ "'")
    | none => Finding.of .uniqueName true module.path.text "Module name is unique"
  finding.about module

end Conventions.ModuleName
