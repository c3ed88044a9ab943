import Conventions.Proofs.Entries
import Conventions.Proofs.Except
import Conventions.Proofs.Workspace.Outline

/-!
# What a write changes

Writing a file that is there gives the file at one place another text. All files and folders
stay where they are, every path to this place reads the new text, and every other path reads
what it read before.
-/

namespace Conventions

namespace FileTree

/-- The content of the file that names lead to. -/
def contentAt? (names : List String) (tree : FileTree) : Option FileContent :=
  match tree.descend? names with
  | some (.file content) => some content
  | _ => none

/-- The content of a file is what names lead to. -/
theorem contentAt?_eq_some_iff {names : List String} {tree : FileTree} {content : FileContent} :
    tree.contentAt? names = some content ↔ tree.descend? names = some (.file content) := by
  unfold contentAt?
  split
  · next old hold => simp [hold]
  · next hnone =>
    constructor
    · intro h
      cases h
    · intro h
      exact absurd h (hnone content)

/-- What names lead to has a content if it is a file. -/
theorem contentAt?_eq_bind (names : List String) (tree : FileTree) :
    tree.contentAt? names = (tree.descend? names).bind (contentAt? []) := by
  unfold contentAt?
  cases tree.descend? names with
  | none => rfl
  | some below => rfl

/-- Two files with one content have one text, and folders have none. -/
theorem text_eq {tree other : FileTree} (houtline : tree.outline = other.outline)
    (hcontent : tree.contentAt? [] = other.contentAt? []) : tree.text = other.text := by
  cases tree with
  | file content =>
    cases other with
    | file content' =>
      cases hcontent
      rfl
    | folder entries' => cases houtline
  | folder entries =>
    cases other with
    | file content' => cases houtline
    | folder entries' => rfl

/-- The content behind the first name is that in the entry of this name. -/
theorem contentAt?_folder (name : String) (rest : List String)
    (entries : List (String × FileTree)) :
    contentAt? (name :: rest) (.folder entries) =
      (Entries.find? name entries).bind (contentAt? rest) := by
  simp only [contentAt?, descend?, Option.bind_eq_bind]
  cases Entries.find? name entries with
  | none => rfl
  | some below => rfl

/-- A file that is given another content has this content, and no other file is touched. -/
theorem contentAt?_overwrite (content : FileContent) (place other : List String)
    (tree : FileTree) : (tree.overwrite content place).contentAt? other =
      if place = other then (tree.contentAt? other).map fun _ => content
      else tree.contentAt? other := by
  induction place generalizing tree other with
  | nil =>
    cases tree with
    | file old => cases other <;> rfl
    | folder entries => cases other <;> rfl
  | cons name rest ih =>
    cases tree with
    | file old => cases other <;> simp [overwrite, contentAt?, descend?]
    | folder entries =>
      cases other with
      | nil => rfl
      | cons first more =>
        simp only [overwrite, contentAt?_folder, Entries.find?_modify, List.cons.injEq]
        by_cases hname : name = first
        · subst hname
          cases hentry : Entries.find? name entries with
          | none => simp
          | some below => simpa using ih more below
        · simp [hname]

end FileTree

namespace Workspace

variable {workspace other : Workspace}

/-- Two paths lead to the same place. -/
def SamePlace (workspace : Workspace) (a b : RepoPath) : Prop :=
  ∃ place, workspace.locate a = .ok place ∧ workspace.locate b = .ok place

/-- Leading to the same place goes both ways. -/
theorem SamePlace.symm {a b : RepoPath} (h : workspace.SamePlace a b) :
    workspace.SamePlace b a := by
  obtain ⟨place, ha, hb⟩ := h
  exact ⟨place, hb, ha⟩

/-- Which paths lead to the same place does not depend on contents. -/
theorem SameOutline.samePlace_iff (h : SameOutline workspace other) (a b : RepoPath) :
    workspace.SamePlace a b ↔ other.SamePlace a b := by
  simp only [SamePlace, h.locate]

/-- A path under which there is a file leads to the place of this file. -/
theorem exists_locate_of_isFile {path : RepoPath} (h : workspace.isFile path = true) :
    ∃ place content, workspace.locate path = .ok place ∧
      workspace.root.descend? place = some (.file content) := by
  unfold isFile at h
  split at h
  · next content hfind =>
    obtain ⟨place, hplace, htree⟩ := bind_eq_ok_iff.mp hfind
    unfold treeAt at htree
    split at htree
    · cases htree
    · next tree hbelow =>
      cases htree
      exact ⟨place, content, hplace, hbelow⟩
  · cases h

/-- What is read is a file. -/
theorem isFile_of_read {path : RepoPath} {text : String} (h : workspace.read path = .ok text) :
    workspace.isFile path = true := by
  obtain ⟨tree, hfind, htext⟩ := bind_eq_ok_iff.mp h
  unfold isFile
  rw [hfind]
  cases tree with
  | file content => rfl
  | folder entries => cases htext

/-- In two workspaces of one outline, a path reads the same if the content at its place is
the same. -/
theorem SameOutline.read_eq (h : SameOutline workspace other) {path : RepoPath}
    (hcontent : ∀ place, workspace.locate path = .ok place →
      workspace.root.contentAt? place = other.root.contentAt? place) :
    workspace.read path = other.read path := by
  unfold read find
  rw [← h.locate path]
  cases hlocate : workspace.locate path with
  | error problem => rfl
  | ok place =>
    have hplace := hcontent place hlocate
    have htree : (workspace.root.descend? place).map FileTree.outline =
        (other.root.descend? place).map FileTree.outline := by
      rw [← FileTree.descend?_outline, ← FileTree.descend?_outline]
      exact congrArg (fun outline => outline.root.descend? place) h
    change (workspace.treeAt place >>= FileTree.text) = (other.treeAt place >>= FileTree.text)
    unfold treeAt
    rw [FileTree.contentAt?_eq_bind, FileTree.contentAt?_eq_bind] at hplace
    cases hleft : workspace.root.descend? place with
    | none =>
      rw [hleft] at htree
      rw [Option.map_eq_none_iff.mp htree.symm]
    | some tree =>
      rw [hleft] at htree hplace
      obtain ⟨tree', hright, houtline⟩ := Option.map_eq_some_iff.mp htree.symm
      rw [hright] at hplace ⊢
      exact FileTree.text_eq houtline.symm hplace

/-- A file that is there can be written, and this changes the content of the one file that
its path leads to. -/
theorem write_of_isFile {path : RepoPath} (h : workspace.isFile path = true) (text : String) :
    ∃ place, workspace.locate path = .ok place ∧
      (workspace.root.contentAt? place).isSome = true ∧
      workspace.write path text =
        .ok { workspace with root := workspace.root.overwrite (.text text) place } := by
  obtain ⟨place, content, hplace, htree⟩ := exists_locate_of_isFile h
  refine ⟨place, hplace, by simp [FileTree.contentAt?, htree], ?_⟩
  simp only [write, hplace, writeAt, htree]

/-- A write of a file that is there changes the content of the one file that its path leads
to. -/
theorem write_eq_ok {path : RepoPath} {text : String} {after : Workspace}
    (hfile : workspace.isFile path = true) (h : workspace.write path text = .ok after) :
    ∃ place, workspace.locate path = .ok place ∧
      (workspace.root.contentAt? place).isSome = true ∧
      after = { workspace with root := workspace.root.overwrite (.text text) place } := by
  obtain ⟨place, hplace, hcontent, hwrite⟩ := write_of_isFile hfile text
  cases hwrite.symm.trans h
  exact ⟨place, hplace, hcontent, rfl⟩

/-- A write of a file that is there leaves all folders and files where they are. -/
theorem sameOutline_of_write {path : RepoPath} {text : String} {after : Workspace}
    (hfile : workspace.isFile path = true) (h : workspace.write path text = .ok after) :
    SameOutline workspace after := by
  obtain ⟨place, -, -, rfl⟩ := write_eq_ok hfile h
  unfold SameOutline outline
  rw [FileTree.outline_overwrite]

/-- The path of a file leads to the same place as itself. -/
theorem samePlace_of_isFile {path : RepoPath} (h : workspace.isFile path = true) :
    workspace.SamePlace path path := by
  obtain ⟨place, _, hplace, -⟩ := exists_locate_of_isFile h
  exact ⟨place, hplace, hplace⟩

/-- Behind a write, every path to the same place reads the new text. -/
theorem read_of_write_of_samePlace {path file : RepoPath} {text : String} {after : Workspace}
    (hthere : workspace.isFile path = true) (h : workspace.write path text = .ok after)
    (hsame : workspace.SamePlace path file) : after.read file = .ok text := by
  obtain ⟨place, hplace, hcontent, hafter⟩ := write_eq_ok hthere h
  obtain ⟨common, hpath, hfile⟩ := hsame
  cases hplace.symm.trans hpath
  have hnew : after.root.contentAt? place = some (.text text) := by
    obtain ⟨content, hold⟩ := Option.isSome_iff_exists.mp hcontent
    rw [hafter, FileTree.contentAt?_overwrite, if_pos rfl, hold]
    rfl
  have htree := FileTree.contentAt?_eq_some_iff.mp hnew
  have hlocate : after.locate file = .ok place := by
    rw [← (sameOutline_of_write hthere h).locate, hfile]
  unfold read find
  refine bind_eq_ok_iff.mpr ⟨.file (.text text), bind_eq_ok_iff.mpr ⟨place, hlocate, ?_⟩, rfl⟩
  unfold treeAt
  rw [htree]

/-- Behind a write, a path to another place reads what it read before. -/
theorem read_of_write_of_not_samePlace {path file : RepoPath} {text : String}
    {after : Workspace} (hthere : workspace.isFile path = true)
    (h : workspace.write path text = .ok after) (hother : ¬ workspace.SamePlace path file) :
    after.read file = workspace.read file := by
  refine ((sameOutline_of_write hthere h).read_eq fun place hplace => ?_).symm
  obtain ⟨written, hwritten, -, rfl⟩ := write_eq_ok hthere h
  have hne : written ≠ place := by
    rintro rfl
    exact hother ⟨written, hwritten, hplace⟩
  rw [FileTree.contentAt?_overwrite, if_neg hne]

end Workspace

end Conventions
