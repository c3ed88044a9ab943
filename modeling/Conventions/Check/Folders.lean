import Conventions.Check.Basic
import Conventions.Workspace.Markers

/-!
# Folders

A module has to have a folder for each of its patterns. In strict mode it may have no
others, except for those that lead to one of them.
-/

namespace Conventions

namespace FileTree

mutual

/-- The folders below a tree, each by the names that lead to it, every folder before
those in it. -/
def foldersBelow (above : List String) : FileTree → List (List String)
  | .file _ => []
  | .folder entries => foldersAmong above entries

/-- The folders among entries and below them. -/
def foldersAmong (above : List String) : List (String × FileTree) → List (List String)
  | [] => []
  | (name, tree) :: rest =>
    (if tree.isFolder then [above ++ [name]] else []) ++ foldersBelow (above ++ [name]) tree ++
      foldersAmong above rest

end

end FileTree

namespace Folders

/-- The folders of a module, by their names below it. -/
def ofModule (workspace : Workspace) (module : RepoModule) : List (List String) :=
  match workspace.find module.path with
  | .ok tree => tree.foldersBelow []
  | .error _ => []

/-- Whether a pattern matches a folder. -/
def isMatch (pattern : CompiledGlob) (folder : List String) : Bool :=
  Glob.isMatch pattern.pattern (Markers.relativeText folder)

/-- The folders that neither match a pattern nor lead to one that does; none if no folder
matches. -/
def extra (patterns : List CompiledGlob) (folders : List (List String)) : List (List String) :=
  let wanted := folders.filter fun folder =>
    Glob.anyMatch (patterns.map (·.pattern)) (Markers.relativeText folder)
  if wanted.isEmpty then []
  else folders.filter fun folder => !wanted.any fun other => folder.isPrefixOf other

/-- Checks that there is a folder for a pattern. -/
def checkPattern (module : RepoModule) (folders : List (List String)) (pattern : CompiledGlob) :
    Finding :=
  let found := folders.any (isMatch pattern)
  (Finding.of .folderStructure found (module.file pattern.text).text
    (if found then "Required folder found" else "Required folder not found")).about module

/-- The finding about a folder that is not allowed. -/
def refuse (module : RepoModule) (folder : List String) : Finding :=
  (Finding.of .folderStructure false (module.file (Markers.relativeText folder)).text
    "Folder outside the required list not allowed (strict mode)").about module

/-- Checks a module. -/
def check (workspace : Workspace) (module : RepoModule) : Except Failure (List Finding) :=
  match module.options? .folderStructure with
  | some (.folders required strict) =>
    if required.isEmpty then .ok []
    else do
      let patterns ← (compileGlobs id required).mapError .glob
      let folders := ofModule workspace module
      return patterns.map (checkPattern module folders) ++
        if strict then (extra patterns folders).map (refuse module) else []
  | _ => .ok []

end Folders

end Conventions
