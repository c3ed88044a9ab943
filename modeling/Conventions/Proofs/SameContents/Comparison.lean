import Conventions.Proofs.Except
import Conventions.Proofs.Path
import Conventions.SameContents.Comparison

/-!
# What a comparison comes to

The parts of a file are compared one by one if both files can be read, and else there is one
problem in their place.
-/

namespace Conventions.SameContents

variable (round : Similarity.Rounding) {workspace : Workspace} {reference module : RepoModule}
  {entry : FileEntry}

/-- A file that can be loaded has a format. -/
theorem isSome_ofPath?_of_load {path : RepoPath} {document : Json}
    (h : workspace.load path = .ok document) : (ContentFormat.ofPath? path).isSome = true := by
  unfold Workspace.load at h
  split at h
  · cases h
  · next format hformat =>
    rw [hformat]
    rfl

/-- The documents of a file are those in the two copies of it. -/
theorem documents_eq_ok_iff {expected found : Json} :
    documents workspace reference module entry = .ok (expected, found) ↔
      workspace.load (reference.file entry.name) = .ok expected ∧
        workspace.load (module.file entry.name) = .ok found := by
  unfold documents
  cases workspace.load (reference.file entry.name) with
  | error failure => simp [bind, Except.bind]
  | ok expected =>
    cases workspace.load (module.file entry.name) with
    | error failure => simp [bind, Except.bind]
    | ok found => simp [bind, Except.bind, pure, Except.pure]

/-- There are no documents of a file if the copy of the reference cannot be read. -/
theorem documents_of_error {failure : Failure}
    (h : workspace.load (reference.file entry.name) = .error failure) :
    documents workspace reference module entry = .error failure := by
  simp only [documents, h]
  rfl

/-- If both copies of a file can be read, its parts are compared one by one. -/
theorem compareParts_of_ok {expected found : Json}
    (h : documents workspace reference module entry = .ok (expected, found)) :
    compareParts round workspace reference module entry =
      entry.selectors.flatMap (comparePart round reference module entry expected found) := by
  have hformat := isSome_ofPath?_of_load (documents_eq_ok_iff.mp h).2
  have hsome : ¬ (ContentFormat.ofPath? (module.file entry.name)).isNone = true := by
    rw [← Option.not_isSome, hformat]
    decide
  simp only [compareParts, if_neg hsome, h]

/-- If one of the copies of a file cannot be read, this is the only problem of the file. -/
theorem compareParts_of_error {failure : Failure}
    (h : documents workspace reference module entry = .error failure) :
    ∃ reason, compareParts round workspace reference module entry =
      [refuse (module.file entry.name).text reason] := by
  simp only [compareParts, h]
  split
  · exact ⟨_, rfl⟩
  · exact ⟨_, rfl⟩

/-- What is found is about the module that is compared, and otherwise what is found in the files
that are compared. -/
theorem mem_compareFiles_iff {options : Options} {finding : Finding} :
    finding ∈ compareFiles round workspace options reference module ↔
      ∃ entry ∈ options.files, entry.enabled = true ∧
        ∃ found ∈ compareFile round workspace reference module entry,
          found.about module = finding := by
  simp only [compareFiles, List.mem_map, List.mem_flatMap, List.mem_filter]
  grind

/-- What a finding about a part of a file of a module is about. -/
def partName (module : RepoModule) (entry : FileEntry) (selector : Selector) : String :=
  (module.file entry.name).text ++ "[" ++ selector.raw ++ "]"

/-- A module of which nothing but its name and its place is known. -/
def bareModule (name : String) : RepoModule := ⟨⟨name⟩, name, {}, []⟩

end Conventions.SameContents
