import Conventions.Sorting
import Conventions.Workspace.Ignored

/-!
# Marker files

A walk through a file tree that does not enter ignored directories, and the marker
files that it comes across.
-/

namespace Conventions

namespace FileTree

mutual

/-- The files of a tree, each by the names that lead to it. An entry that is not kept
is left out with everything below it. -/
def filesWhere (keep : List String → Bool) (above : List String) : FileTree → List (List String)
  | .file _ => [above]
  | .folder entries => entriesWhere keep above entries

/-- The files among the entries of a folder and below them. -/
def entriesWhere (keep : List String → Bool) (above : List String) :
    List (String × FileTree) → List (List String)
  | [] => []
  | (name, tree) :: rest =>
    (if keep (above ++ [name]) then filesWhere keep (above ++ [name]) tree else []) ++
      entriesWhere keep above rest

end

end FileTree

namespace Markers

/-- The text of a path below the base directory. -/
def relativeText (names : List String) : String := "/".intercalate names

/-- The path that names lead to. -/
def pathOf (base : RepoPath) (names : List String) : RepoPath := names.foldl RepoPath.join base

/-- Paths in ascending order. -/
def sortPaths (paths : List RepoPath) : List RepoPath :=
  sortBy (fun a b => !b.before a) paths

/-- The globs of markers, which are found at any depth. -/
def globs (markers : List String) : Except Glob.Error (List Glob.Pattern) :=
  markers.mapM fun marker => Glob.parse ("**/" ++ marker)

/-- The marker files below a base directory, in ascending order, without those that
are ignored or below an ignored directory. -/
def find (workspace : Workspace) (base : RepoPath) (markers : List String)
    (ignored : List Glob.Pattern) : Except Glob.Error (List RepoPath) :=
  if markers.isEmpty then .ok []
  else do
    let wanted ← globs markers
    match workspace.find base with
    | .error _ => return []
    | .ok tree =>
      let files := tree.filesWhere (fun names => !Glob.anyMatch ignored (relativeText names)) []
      let found := files.filter fun names => Glob.anyMatch wanted (relativeText names)
      return sortPaths (found.map (pathOf base))

end Markers

end Conventions
