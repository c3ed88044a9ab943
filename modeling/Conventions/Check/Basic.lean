import Conventions.Finding

/-!
# Checks

What a rule gets to see, and how a rule puts a file in order.
-/

namespace Conventions

/-- What the rules see of a repository, besides its files. -/
structure Scope where
  base : RepoPath
  /-- The configuration of the base directory. -/
  config : Config
  /-- All modules, in ascending order. -/
  modules : List RepoModule
  /-- Whether problems are to be fixed. -/
  fix : Bool

/-- What a rule finds, and the workspace as the rule leaves it. -/
abbrev Findings := List Finding × Workspace

/-- Overwrites a file with a text that puts it in order. -/
def writeFix (workspace : Workspace) (file : RepoPath) (text description : String) :
    Fix × Workspace :=
  match workspace.write file text with
  | .ok workspace => (⟨.fixed, some description⟩, workspace)
  | .error error =>
    (⟨.notPossible, some ("Couldn't write " ++ file.text ++ ": " ++ error.text)⟩, workspace)

/-- Checks items one after the other, each on the workspace that the one before it left. -/
def checkEach {α : Type} (check : Workspace → α → Findings) (workspace : Workspace) :
    List α → Findings
  | [] => ([], workspace)
  | item :: rest =>
    let (found, workspace) := check workspace item
    let (more, workspace) := checkEach check workspace rest
    (found ++ more, workspace)

/-- Checks items one after the other until a check fails. -/
def checkAll {α : Type} (check : α → Except Failure (List Finding)) (items : List α) :
    Except Failure (List Finding) := do
  return (← items.mapM check).flatten

end Conventions
