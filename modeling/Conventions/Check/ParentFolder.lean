import Conventions.Check.Basic
import Conventions.Workspace.Markers

/-!
# Parent folders

The folder that holds a module has to match one of its patterns, at any depth below the
base directory.
-/

namespace Conventions.ParentFolder

/-- The names that lead from the base directory to the folder that holds a module; none
if the module is in the base directory itself. -/
def ofModule (base : RepoPath) (module : RepoModule) : List String :=
  RepoPath.names ((module.path.parent?.bind fun parent => parent.relativeTo? base).getD [])

/-- Whether a folder is one of the allowed ones. -/
def isAllowed (allowed : List CompiledGlob) (folder : List String) : Bool :=
  !folder.isEmpty && Glob.anyMatch (allowed.map (·.pattern)) (Markers.relativeText folder)

/-- Checks a module. -/
def check (base : RepoPath) (module : RepoModule) : Except Failure (List Finding) :=
  match module.options? .parentFolder with
  | some (.parents allowed) =>
    if allowed.isEmpty then .ok []
    else do
      let patterns ← (compileGlobs Glob.atAnyDepth allowed).mapError .glob
      let valid := isAllowed patterns (ofModule base module)
      return [(Finding.of .parentFolder valid module.path.text
        (if valid then "Module parent folder name is valid"
        else "Module parent folder name does not match any of the patterns: " ++
          ", ".intercalate (allowed.map (·.text)))).about module]
  | _ => .ok []

end Conventions.ParentFolder
