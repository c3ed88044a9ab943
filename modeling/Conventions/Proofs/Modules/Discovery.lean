import Conventions.Modules.Discovery
import Conventions.Proofs.Except
import Conventions.Proofs.Modules.Leaves
import Conventions.Proofs.Sorting

/-!
# What discovery finds

The modules of a repository are the deepest directories with marker files. No module is
in another one, they are in strict order, and every directory with a marker file is the
directory of a module or above one.
-/

namespace Conventions

/-! ### Directories, each once -/

/-- Nothing is added where repeated paths are dropped. -/
theorem mem_of_mem_dropRepeated {paths : List RepoPath} {path : RepoPath}
    (h : path ∈ dropRepeated paths) : path ∈ paths := by
  fun_induction dropRepeated paths with
  | case1 => exact h
  | case2 only => exact h
  | case3 first next rest hsame ih =>
    rcases List.mem_cons.mp (ih h) with rfl | hrest
    · simp
    · simp [hrest]
  | case4 first next rest hsame ih =>
    rcases List.mem_cons.mp h with rfl | hrest
    · simp
    · exact List.mem_cons_of_mem _ (ih hrest)

/-- For every path, one with its components is kept. -/
theorem exists_mem_dropRepeated {paths : List RepoPath} :
    ∀ path ∈ paths, ∃ kept ∈ dropRepeated paths, kept.components = path.components := by
  fun_induction dropRepeated paths with
  | case1 => simp
  | case2 only => exact fun path hpath => ⟨path, hpath, rfl⟩
  | case3 first next rest hsame ih =>
    intro path hpath
    rcases List.mem_cons.mp hpath with rfl | hpath
    · exact ih path (by simp)
    · rcases List.mem_cons.mp hpath with rfl | hpath
      · obtain ⟨kept, hkept, heq⟩ := ih first (by simp)
        exact ⟨kept, hkept, heq.trans (RepoPath.same_iff.mp hsame)⟩
      · exact ih path (List.mem_cons_of_mem _ hpath)
  | case4 first next rest hsame ih =>
    intro path hpath
    rcases List.mem_cons.mp hpath with rfl | hpath
    · exact ⟨path, by simp, rfl⟩
    · obtain ⟨kept, hkept, heq⟩ := ih path hpath
      exact ⟨kept, List.mem_cons_of_mem _ hkept, heq⟩

/-- Paths in ascending order are in strict order once repeated ones are dropped. -/
theorem pairwise_dropRepeated {paths : List RepoPath}
    (h : paths.Pairwise fun a b => b.before a = false) :
    (dropRepeated paths).Pairwise fun a b => a.before b = true := by
  fun_induction dropRepeated paths with
  | case1 => exact .nil
  | case2 only => exact List.pairwise_singleton _ _
  | case3 first next rest hsame ih =>
    obtain ⟨hfirst, hrest⟩ := List.pairwise_cons.mp h
    obtain ⟨-, hlast⟩ := List.pairwise_cons.mp hrest
    exact ih (List.pairwise_cons.mpr ⟨fun other hother => hfirst other (by simp [hother]), hlast⟩)
  | case4 first next rest hsame ih =>
    obtain ⟨hfirst, hrest⟩ := List.pairwise_cons.mp h
    obtain ⟨hnext, -⟩ := List.pairwise_cons.mp hrest
    -- The first path comes strictly before the next one, and so before all that follow it.
    have hstrict : first.before next = true := by
      by_contra hnot
      have heq := RepoPath.same_of_not_before (by simpa using hnot) (hfirst next (by simp))
      exact hsame (RepoPath.same_iff.mpr heq)
    refine List.pairwise_cons.mpr ⟨fun other hother => ?_, ih hrest⟩
    rcases List.mem_cons.mp (mem_of_mem_dropRepeated hother) with rfl | hother
    · exact hstrict
    · exact RepoPath.isOrder_before.before_of_not hstrict (hnext other hother)

/-! ### Modules -/

namespace RepoModule

/-- The directories of files are in strict order. -/
theorem pairwise_foldersOf (files : List RepoPath) :
    (foldersOf files).Pairwise fun a b => a.before b = true :=
  pairwise_dropRepeated (RepoPath.isOrder_before.pairwise_sortBy _)

/-- Each of the directories holds one of the files. -/
theorem exists_parent_of_mem_foldersOf {files : List RepoPath} {folder : RepoPath}
    (h : folder ∈ foldersOf files) : ∃ file ∈ files, file.parent? = some folder := by
  have hmem := mem_of_mem_dropRepeated h
  rw [Markers.sortPaths, mem_sortBy] at hmem
  exact List.mem_filterMap.mp hmem

/-- The directory of each of the files is there. -/
theorem exists_mem_foldersOf {files : List RepoPath} {file folder : RepoPath} (h : file ∈ files)
    (hparent : file.parent? = some folder) :
    ∃ kept ∈ foldersOf files, kept.components = folder.components := by
  apply exists_mem_dropRepeated folder
  rw [Markers.sortPaths, mem_sortBy]
  exact List.mem_filterMap.mpr ⟨file, h, hparent⟩

/-- A module is in the directory that it is loaded from. -/
theorem path_of_load {workspace : Workspace} {base path : RepoPath} {configFile : String}
    {module : RepoModule} (h : load workspace base configFile path = .ok module) :
    module.path = path := by
  obtain ⟨resolution, -, h⟩ := bind_eq_ok_iff.mp h
  obtain ⟨bindings, -, h⟩ := bind_eq_ok_iff.mp h
  cases h
  rfl

/-- Loaded modules are in the directories that they are loaded from. -/
theorem map_path_of_load {workspace : Workspace} {base : RepoPath} {configFile : String}
    {folders : List RepoPath} {modules : List RepoModule}
    (h : folders.mapM (load workspace base configFile) = .ok modules) :
    modules.map RepoModule.path = folders := by
  have hall := mapM_eq_ok_iff.mp h
  clear h
  induction hall with
  | nil => rfl
  | cons hload _ ih => rw [List.map_cons, path_of_load hload, ih]

/-- Neither of two modules is in the other one, and they are not in the same directory. -/
def Apart (a b : RepoModule) : Prop :=
  a.path.same b.path = false ∧ a.path.holds b.path = false ∧ b.path.holds a.path = false

/-- Being apart goes both ways. -/
theorem Apart.symm {a b : RepoModule} (h : a.Apart b) : b.Apart a := by
  obtain ⟨hsame, hab, hba⟩ := h
  refine ⟨?_, hba, hab⟩
  rw [← Bool.not_eq_true, RepoPath.same_iff] at hsame ⊢
  exact fun heq => hsame heq.symm

/-- Modules are ordered. -/
theorem isOrder_before : IsOrder RepoModule.before :=
  (isLinear_textBefore.pairBefore RepoPath.isOrder_before).comap
    fun module : RepoModule => (module.name, module.path)

/-- Of two modules that are apart one comes before the other. -/
theorem before_of_apart {a b : RepoModule} (h : a.Apart b) (hba : b.before a = false) :
    a.before b = true := by
  by_contra hab
  simp only [before, pairBefore, Bool.not_eq_true] at hab hba
  have hsame : a.path.same b.path = true := by
    rw [RepoPath.same_iff]
    by_cases hname : a.name = b.name
    · rw [if_pos hname] at hab
      rw [if_pos hname.symm] at hba
      exact RepoPath.same_of_not_before hab hba
    · rw [if_neg hname] at hab
      rw [if_neg (Ne.symm hname)] at hba
      exact absurd (isLinear_textBefore.eq_of_not hab hba) hname
  rw [h.1] at hsame
  cases hsame

/-- Modules that are loaded from directories in strict order leave leaves that are apart. -/
theorem pairwise_apart_leaves {modules : List RepoModule}
    (h : (modules.map RepoModule.path).Pairwise fun a b => a.before b = true) :
    (leaves RepoModule.path modules).Pairwise Apart := by
  have hstrict : (leaves RepoModule.path modules).Pairwise
      fun a b => a.path.before b.path = true := (List.pairwise_map.mp h).filter _
  refine hstrict.imp_of_mem ?_
  intro a b ha hb hbefore
  refine ⟨?_, ?_, ?_⟩
  · rw [← Bool.not_eq_true, RepoPath.same_iff]
    exact RepoPath.ne_of_before hbefore
  · exact holds_eq_false_of_leaf ha (List.mem_of_mem_filter hb)
  · exact holds_eq_false_of_leaf hb (List.mem_of_mem_filter ha)

/-- Modules that are apart stay so when they are sorted. -/
theorem pairwise_apart_sortBy {modules : List RepoModule} (le : RepoModule → RepoModule → Bool)
    (h : modules.Pairwise Apart) : (sortBy le modules).Pairwise Apart :=
  ((sortBy_perm le modules).pairwise_iff Apart.symm).mpr h

/-- Sorting modules that are apart puts them in strict order. -/
theorem pairwise_before_sortBy {modules : List RepoModule} (h : modules.Pairwise Apart) :
    (sortBy (fun a b => !before b a) modules).Pairwise fun a b => a.before b = true := by
  have hsorted := isOrder_before.pairwise_sortBy modules
  refine (hsorted.and (pairwise_apart_sortBy _ h)).imp ?_
  rintro a b ⟨hnot, hapart⟩
  exact before_of_apart hapart hnot

/-- What discovery goes through: the marker files, the candidates and their leaves. -/
theorem discover_eq_ok {workspace : Workspace} {base : RepoPath} {config : Config}
    {configFile : String} {modules : List RepoModule}
    (h : discover workspace base config configFile = .ok modules) :
    ∃ files candidates, markerFiles workspace base config = .ok files ∧
      candidates.map RepoModule.path = foldersOf files ∧ modules = arrange candidates := by
  obtain ⟨files, hfiles, h⟩ := bind_eq_ok_iff.mp h
  obtain ⟨candidates, hcandidates, h⟩ := bind_eq_ok_iff.mp h
  cases h
  exact ⟨files, candidates, hfiles, map_path_of_load hcandidates, rfl⟩

/-- Marker files are found once the ignored paths are known. -/
theorem markerFiles_eq_ok {workspace : Workspace} {base : RepoPath} {config : Config}
    {files : List RepoPath} (h : markerFiles workspace base config = .ok files) :
    ∃ ignored, Ignored.globs (Ignored.patterns workspace base config.useGitignore) = .ok ignored ∧
      Markers.find workspace base config.markers ignored = .ok files := by
  obtain ⟨ignored, hignored, h⟩ := bind_eq_ok_iff.mp h
  exact ⟨ignored, mapError_eq_ok_iff.mp hignored, mapError_eq_ok_iff.mp h⟩

/-- The modules that are discovered are apart and in strict order, each is in the
directory of a marker file, and the directory of every marker file is the directory of a
module or above one. -/
theorem discover_finds_deepest {workspace : Workspace} {base : RepoPath} {config : Config}
    {configFile : String} {modules : List RepoModule}
    (h : discover workspace base config configFile = .ok modules) :
    ∃ ignored files,
      Ignored.globs (Ignored.patterns workspace base config.useGitignore) = .ok ignored ∧
      Markers.find workspace base config.markers ignored = .ok files ∧
      modules.Pairwise Apart ∧
      (modules.Pairwise fun a b => a.before b = true) ∧
      (∀ module ∈ modules, ∃ file ∈ files, file.parent? = some module.path) ∧
      ∀ file ∈ files, ∀ folder, file.parent? = some folder →
        ∃ module ∈ modules, folder.contains module.path = true := by
  obtain ⟨files, candidates, hmarkers, hpaths, rfl⟩ := discover_eq_ok h
  obtain ⟨ignored, hignored, hfiles⟩ := markerFiles_eq_ok hmarkers
  have hstrict := pairwise_foldersOf files
  rw [← hpaths] at hstrict
  have hapart := pairwise_apart_leaves hstrict
  refine ⟨ignored, files, hignored, hfiles, pairwise_apart_sortBy _ hapart,
    pairwise_before_sortBy hapart, ?_, ?_⟩
  · intro module hmodule
    rw [arrange, mem_sortBy] at hmodule
    apply exists_parent_of_mem_foldersOf
    rw [← hpaths]
    exact List.mem_map_of_mem (List.mem_of_mem_filter hmodule)
  · intro file hfile folder hparent
    obtain ⟨kept, hkept, heq⟩ := exists_mem_foldersOf hfile hparent
    rw [← hpaths] at hkept
    obtain ⟨candidate, hcandidate, rfl⟩ := List.mem_map.mp hkept
    obtain ⟨leaf, hleaf, hcontains⟩ :=
      exists_leaf_below RepoModule.path hcandidate
    refine ⟨leaf, by rwa [arrange, mem_sortBy], ?_⟩
    rw [RepoPath.contains_iff] at hcontains ⊢
    rwa [← heq]

/-- A repository with marker files in its base directory, in two directories of one name,
and in a directory above one of these. -/
def nestedMarkers : Workspace where
  root := .folder [
    ("a", .folder [("b", .folder [("p", .file (.text ""))]), ("p", .file (.text ""))]),
    ("c", .folder [("b", .folder [("p", .file (.text ""))])]),
    ("config", .file (.text "\x7b\"extends\": [], \"rules\": \x7b\x7d\x7d")),
    ("p", .file (.text ""))]
  current := []

/-- Of nested directories with marker files only the deepest ones are modules. -/
theorem discover_nestedMarkers : ∃ modules,
    discover nestedMarkers ⟨"."⟩ { markers? := some ["p"] } "config" = .ok modules ∧
      modules.map (·.path.text) = ["./a/b", "./c/b"] ∧ modules.Pairwise Apart := by
  have hrun : (match discover nestedMarkers ⟨"."⟩ { markers? := some ["p"] } "config" with
    | .ok modules => modules.map (·.path.text) == ["./a/b", "./c/b"]
    | .error _ => false) = true := by decide +kernel
  split at hrun
  · next modules hmodules =>
    obtain ⟨_, _, _, _, hapart, -⟩ := discover_finds_deepest hmodules
    exact ⟨modules, hmodules, by simpa using hrun, hapart⟩
  · cases hrun

end RepoModule

end Conventions
