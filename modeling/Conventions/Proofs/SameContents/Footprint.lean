import Conventions.Proofs.SameContents.Comparison
import Conventions.Proofs.SameContents.Reference

/-!
# What a comparison reads

The comparison of two modules reads the files that their options name, in the one module and in
the other, and nothing else of a repository. So a group is compared alike in any two workspaces
that have the same files there: the files of its members, and those of the reference if it is
named.
-/

namespace Conventions

namespace Workspace

/-- What the file under a path holds, if there is one. -/
def fileAt? (workspace : Workspace) (path : RepoPath) : Option FileContent :=
  match workspace.find path with
  | .ok (.file content) => some content
  | _ => none

variable {workspace other : Workspace} {path : RepoPath}

/-- There is a file exactly if it holds something. -/
theorem isFile_eq_isSome_fileAt? : workspace.isFile path = (workspace.fileAt? path).isSome := by
  unfold isFile fileAt?
  cases workspace.find path with
  | error problem => rfl
  | ok tree => cases tree <;> rfl

/-- The same file is there in both of two workspaces or in none. -/
theorem isFile_congr (h : workspace.fileAt? path = other.fileAt? path) :
    workspace.isFile path = other.isFile path := by
  rw [isFile_eq_isSome_fileAt?, isFile_eq_isSome_fileAt?, h]

/-- A file has the text of what it holds. -/
theorem readText_of_fileAt? {content : FileContent} (h : workspace.fileAt? path = some content) :
    workspace.readText path = (FileTree.text (.file content)).mapError .access := by
  unfold fileAt? at h
  split at h
  · next found hfound =>
    cases h
    simp only [readText, read, hfound]
    rfl
  · cases h

/-- The same file reads the same. -/
theorem readText_congr (hfile : workspace.isFile path = true)
    (h : workspace.fileAt? path = other.fileAt? path) :
    workspace.readText path = other.readText path := by
  rw [isFile_eq_isSome_fileAt?, Option.isSome_iff_exists] at hfile
  obtain ⟨content, hcontent⟩ := hfile
  rw [readText_of_fileAt? hcontent, readText_of_fileAt? (h ▸ hcontent)]

end Workspace

namespace SameContents

variable (round : Similarity.Rounding) {workspace other : Workspace}
  {reference module : RepoModule} {entry : FileEntry}

/-- A file is compared alike where both modules have the same copies of it. -/
theorem compareFile_congr
    (hreference : workspace.fileAt? (reference.file entry.name) =
      other.fileAt? (reference.file entry.name))
    (hmodule : workspace.fileAt? (module.file entry.name) =
      other.fileAt? (module.file entry.name)) :
    compareFile round workspace reference module entry =
      compareFile round other reference module entry := by
  unfold compareFile
  rw [← Workspace.isFile_congr hreference, ← Workspace.isFile_congr hmodule]
  by_cases hshared : (workspace.isFile (reference.file entry.name) &&
      workspace.isFile (module.file entry.name)) = true
  · obtain ⟨hthere, hfile⟩ := Bool.and_eq_true_iff.mp hshared
    have hexpected := Workspace.readText_congr hthere hreference
    have hfound := Workspace.readText_congr hfile hmodule
    have hwhole : compareWhole round workspace reference module entry =
        compareWhole round other reference module entry := by
      simp only [compareWhole, Workspace.fileSimilarity, hexpected, hfound]
    have hparts : compareParts round workspace reference module entry =
        compareParts round other reference module entry := by
      simp only [compareParts, documents, Workspace.load, hexpected, hfound]
    rw [hwhole, hparts]
  · simp [hshared]

/-- Two workspaces have the same in every file of a module that options compare. -/
def SameFiles (workspace other : Workspace) (options : Options) (module : RepoModule) : Prop :=
  ∀ entry ∈ options.files, entry.enabled = true →
    workspace.fileAt? (module.file entry.name) = other.fileAt? (module.file entry.name)

variable {options : Options}

/-- Modules are compared alike where both have the same files. -/
theorem compareFiles_congr (hreference : SameFiles workspace other options reference)
    (hmodule : SameFiles workspace other options module) :
    compareFiles round workspace options reference module =
      compareFiles round other options reference module := by
  unfold compareFiles
  refine congrArg _ (List.flatMap_congr fun entry hentry => ?_)
  obtain ⟨hentry, henabled⟩ := List.mem_filter.mp hentry
  exact compareFile_congr round (hreference entry hentry henabled) (hmodule entry hentry henabled)

variable {modules : List RepoModule} {group : Group}

/-- Members are compared with a reference alike where all of them have the same files. -/
theorem compareAll_congr {members : List RepoModule}
    (hreference : SameFiles workspace other options reference)
    (hmembers : ∀ member ∈ members, SameFiles workspace other options member) :
    compareAll round workspace options members reference =
      compareAll round other options members reference :=
  List.flatMap_congr fun member hmember =>
    compareFiles_congr round hreference (hmembers member hmember)

/-- The fullest members are the same where all members have the same files. -/
theorem leaders_congr
    (hmembers : ∀ member ∈ group.members, SameFiles workspace other group.options member) :
    leaders round workspace group = leaders round other group := by
  refine List.foldl_ext _ _ _ fun known member hmember => ?_
  unfold ownCount
  rw [compareFiles_congr round (hmembers member hmember) (hmembers member hmember)]

/-- A reference is picked alike where all members have the same files. -/
theorem compareBest_congr
    (hmembers : ∀ member ∈ group.members, SameFiles workspace other group.options member) :
    compareBest round workspace group = compareBest round other group := by
  have htrials : (leaders round workspace group).members.map (trial round workspace group) =
      (leaders round workspace group).members.map (trial round other group) := by
    refine List.map_congr_left fun leader hleader => ?_
    obtain ⟨hmember, -⟩ := (mem_leaders_iff round workspace group leader).mp hleader
    unfold trial
    rw [compareAll_congr round (hmembers leader hmember) hmembers]
  unfold compareBest
  rw [htrials, leaders_congr round hmembers]

/-- A module is the one of all modules that a group names as its reference. -/
def IsNamedReference (modules : List RepoModule) (group : Group) (reference : RepoModule) : Prop :=
  ∃ name, group.options.reference? = some name ∧ modules.filter (·.name == name) = [reference]

/-- A group is compared alike where its members, and its reference if it is named, have the same
files. -/
theorem compareGroup_congr
    (hmembers : ∀ member ∈ group.members, SameFiles workspace other group.options member)
    (hreference : ∀ reference, IsNamedReference modules group reference →
      SameFiles workspace other group.options reference) :
    compareGroup round workspace modules group = compareGroup round other modules group := by
  unfold compareGroup
  cases hname : group.options.reference? with
  | none => exact compareBest_congr round hmembers
  | some name =>
    dsimp only
    unfold compareNamed
    split
    · next reference honly =>
      exact compareAll_congr round (hreference reference ⟨name, hname, honly⟩) hmembers
    · rfl
    · rfl

end SameContents

end Conventions
