import Conventions.Config.Resolution
import Conventions.Modules.Basic
import Conventions.Modules.Leaves
import Conventions.Workspace.Markers

/-!
# Finding modules

Every directory with a marker file is a candidate. The modules are those that have
no other candidate below them.
-/

namespace Conventions

/-- Paths without those that have the same components as the one before them. -/
def dropRepeated : List RepoPath → List RepoPath
  | [] => []
  | [path] => [path]
  | path :: next :: rest =>
    if path.same next then dropRepeated (path :: rest) else path :: dropRepeated (next :: rest)
  termination_by paths => paths.length

namespace RepoModule

/-- The directories that hold files, in ascending order, each once. -/
def foldersOf (files : List RepoPath) : List RepoPath :=
  dropRepeated (Markers.sortPaths (files.filterMap RepoPath.parent?))

/-- The module in a directory. -/
def load (workspace : Workspace) (base : RepoPath) (configFile : String) (path : RepoPath) :
    Except Failure RepoModule := do
  let resolution ← Resolution.resolve workspace path base configFile
  let bindings ← bindRules (path.join configFile) resolution.config.rules
  return { path, name := path.fileName?.getD "", config := resolution.config, bindings }

/-- The order of modules: by name, and those of one name by path. -/
def before (a b : RepoModule) : Bool :=
  pairBefore textBefore RepoPath.before (a.name, a.path) (b.name, b.path)

/-- The marker files below a base directory with a given configuration. -/
def markerFiles (workspace : Workspace) (base : RepoPath) (config : Config) :
    Except Failure (List RepoPath) := do
  let ignored ←
    (Ignored.globs (Ignored.patterns workspace base config.useGitignore)).mapError .glob
  (Markers.find workspace base config.markers ignored).mapError .glob

/-- The modules among candidates, in their order. -/
def arrange (candidates : List RepoModule) : List RepoModule :=
  sortBy (fun a b => !before b a) (leaves RepoModule.path candidates)

/-- The modules below a base directory with a given configuration. -/
def discover (workspace : Workspace) (base : RepoPath) (config : Config) (configFile : String) :
    Except Failure (List RepoModule) := do
  let files ← markerFiles workspace base config
  let candidates ← (foldersOf files).mapM (load workspace base configFile)
  return arrange candidates

end RepoModule

end Conventions
