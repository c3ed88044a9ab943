import Conventions.Proofs.Lint.Rules

/-!
# What a repository is loaded from

The configuration and the modules of a repository depend on its folders and files, on the
texts of the ignore files, and on those of the config files on the way to each directory
with a marker file. Two workspaces that agree on these have one scope.
-/

namespace Conventions

variable {workspace other : Workspace}

namespace Resolution

/-- The config files on the way from a root to a target, those included that are not
there. -/
def configFiles (target root : RepoPath) (fileName : String) : List RepoPath :=
  match levels root target with
  | .error _ => []
  | .ok visited => visited.map fun level => level.path.join fileName

/-- What a level adds depends on its config file. -/
theorem step_congr (h : workspace.SameOutline other) {fileName : String} {level : Level}
    (hread : workspace.read (level.path.join fileName) = other.read (level.path.join fileName))
    (resolution : Resolution) :
    step workspace fileName resolution level = step other fileName resolution level := by
  simp only [step, Config.load, h.isFile, hread]

/-- What several levels add depends on their config files. -/
theorem foldlM_step_congr (h : workspace.SameOutline other) {fileName : String}
    {visited : List Level}
    (hread : ∀ level ∈ visited,
      workspace.read (level.path.join fileName) = other.read (level.path.join fileName))
    (resolution : Resolution) :
    visited.foldlM (step workspace fileName) resolution =
      visited.foldlM (step other fileName) resolution := by
  induction visited generalizing resolution with
  | nil => rfl
  | cons level rest ih =>
    rw [List.foldlM_cons, List.foldlM_cons, step_congr h (hread level (by simp))]
    congr 1
    funext next
    exact ih (fun lower hlower => hread lower (List.mem_cons_of_mem _ hlower)) next

/-- A resolution depends on the config files on the way. -/
theorem resolve_congr (h : workspace.SameOutline other) {target root : RepoPath}
    {fileName : String}
    (hread : ∀ file ∈ configFiles target root fileName, workspace.read file = other.read file) :
    resolve workspace target root fileName = resolve other target root fileName := by
  unfold resolve
  unfold configFiles at hread
  cases hlevels : levels root target with
  | error failure => rfl
  | ok visited =>
    rw [hlevels] at hread
    exact foldlM_step_congr h (fun level hlevel =>
      hread _ (List.mem_map.mpr ⟨level, hlevel, rfl⟩)) start

end Resolution

/-- The files that list what is ignored below a base directory. -/
def Ignored.files (base : RepoPath) : List RepoPath := [base.join gitFile, base.join ownFile]

/-- What is ignored depends on the ignore files. -/
theorem Ignored.patterns_congr {base : RepoPath}
    (hread : ∀ file ∈ Ignored.files base, workspace.read file = other.read file)
    (useGitignore : Bool) :
    Ignored.patterns workspace base useGitignore = Ignored.patterns other base useGitignore := by
  unfold Ignored.patterns Ignored.readPatterns
  rw [hread (base.join gitFile) (by simp [Ignored.files]),
    hread (base.join ownFile) (by simp [Ignored.files])]

namespace RepoModule

/-- The directories with marker files; none if they cannot be searched for. -/
def candidateFolders (workspace : Workspace) (base : RepoPath) (config : Config) :
    List RepoPath :=
  match markerFiles workspace base config with
  | .error _ => []
  | .ok files => foldersOf files

/-- The marker files depend on the ignore files. -/
theorem markerFiles_congr (h : workspace.SameOutline other) {base : RepoPath}
    (hread : ∀ file ∈ Ignored.files base, workspace.read file = other.read file)
    (config : Config) : markerFiles workspace base config = markerFiles other base config := by
  unfold markerFiles
  rw [Ignored.patterns_congr hread]
  exact bind_congr_of_ok fun ignored _ => by rw [h.find_markers]

/-- A module depends on the config files on the way to it. -/
theorem load_congr (h : workspace.SameOutline other) {base path : RepoPath}
    {configFile : String}
    (hread : ∀ file ∈ Resolution.configFiles path base configFile,
      workspace.read file = other.read file) :
    load workspace base configFile path = load other base configFile path := by
  unfold load
  rw [Resolution.resolve_congr h hread]

/-- The modules depend on the ignore files and on the config files on the way to the
directories with marker files. -/
theorem discover_congr (h : workspace.SameOutline other) {base : RepoPath} {config : Config}
    {configFile : String}
    (hignored : ∀ file ∈ Ignored.files base, workspace.read file = other.read file)
    (hread : ∀ folder ∈ candidateFolders workspace base config,
      ∀ file ∈ Resolution.configFiles folder base configFile,
        workspace.read file = other.read file) :
    discover workspace base config configFile = discover other base config configFile := by
  unfold discover
  unfold candidateFolders at hread
  rw [← markerFiles_congr h hignored]
  refine bind_congr_of_ok fun files hfiles => ?_
  simp only [hfiles] at hread
  rw [mapM_congr_of_mem fun folder hfolder => load_congr h (hread folder hfolder)]

end RepoModule

namespace Scope

/-- The files whose texts decide what the rules see of a repository. -/
def sources (workspace : Workspace) (base : RepoPath) (configFile : String) : List RepoPath :=
  Ignored.files base ++ Resolution.configFiles base base configFile ++
    match Resolution.resolve workspace base base configFile with
    | .error _ => []
    | .ok resolution =>
      (RepoModule.candidateFolders workspace base resolution.config).flatMap fun folder =>
        Resolution.configFiles folder base configFile

/-- What the rules see depends on folders and files and on the texts of the sources. -/
theorem load_congr (h : workspace.SameOutline other) {base : RepoPath} {configFile : String}
    (hread : ∀ file ∈ sources workspace base configFile,
      workspace.read file = other.read file) (fix : Bool) :
    load workspace base configFile fix = load other base configFile fix := by
  have hbase := Resolution.resolve_congr h fun file hfile =>
    hread file (List.mem_append_left _ (List.mem_append_right _ hfile))
  unfold load
  rw [← h.isFolder, ← hbase]
  split
  · refine bind_congr_of_ok fun resolution hresolution => ?_
    rw [RepoModule.discover_congr h]
    · exact fun file hfile => hread file (List.mem_append_left _ (List.mem_append_left _ hfile))
    · intro folder hfolder file hfile
      apply hread
      unfold sources
      rw [hresolution]
      exact List.mem_append_right _ (List.mem_flatMap.mpr ⟨folder, hfolder, hfile⟩)
  · rfl

end Scope

end Conventions
