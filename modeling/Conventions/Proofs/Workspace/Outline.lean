import Conventions.Workspace.Markers
import Mathlib.Tactic.Common

/-!
# What does not depend on the contents of files

The outline of a file tree has the same folders and files, but says nothing about what the
files hold. Finding paths, asking what is there and searching for marker files give the same
answers on a tree and on its outline, and so on any two trees with one outline.
-/

namespace Conventions

namespace FileTree

mutual

/-- The same folders and files, without the contents of the files. -/
def outline : FileTree → FileTree
  | .file _ => .file (.text "")
  | .folder entries => .folder (outlineEntries entries)

/-- The outlines of the entries of a folder. -/
def outlineEntries : List (String × FileTree) → List (String × FileTree)
  | [] => []
  | (name, tree) :: rest => (name, outline tree) :: outlineEntries rest

end

/-- An entry is found under the same name in the outline. -/
theorem find?_outlineEntries (name : String) (entries : List (String × FileTree)) :
    Entries.find? name (outlineEntries entries) = (Entries.find? name entries).map outline := by
  induction entries with
  | nil => rfl
  | cons entry rest ih =>
    obtain ⟨k, tree⟩ := entry
    by_cases heq : k = name
    · simp [outlineEntries, Entries.find?, heq]
    · simpa [outlineEntries, Entries.find?, heq] using ih

/-- What names lead to in the outline is the outline of what they lead to. -/
theorem descend?_outline (names : List String) (tree : FileTree) :
    descend? names tree.outline = (descend? names tree).map outline := by
  induction names generalizing tree with
  | nil => rfl
  | cons name rest ih =>
    cases tree with
    | file content => rfl
    | folder entries =>
      simp only [outline, descend?, Option.bind_eq_bind, find?_outlineEntries]
      cases hentry : Entries.find? name entries with
      | none => rfl
      | some below => exact ih below

/-- The entries of the outline have the same names. -/
theorem contains_outlineEntries (name : String) (entries : List (String × FileTree)) :
    Entries.contains name (outlineEntries entries) = Entries.contains name entries := by
  simp [Entries.contains, find?_outlineEntries]

/-- Other contents in a folder's entry do not change the outline of the folder. -/
theorem outlineEntries_modify {change : FileTree → FileTree}
    (h : ∀ tree, (change tree).outline = tree.outline) (name : String)
    (entries : List (String × FileTree)) :
    outlineEntries (Entries.modify name change entries) = outlineEntries entries := by
  induction entries with
  | nil => rfl
  | cons entry rest ih =>
    obtain ⟨k, tree⟩ := entry
    by_cases heq : k = name
    · simp [outlineEntries, Entries.modify, heq, h]
    · simpa [outlineEntries, Entries.modify, heq] using ih

/-- Other contents of a file do not change the outline. -/
theorem outline_overwrite (content : FileContent) (place : List String) (tree : FileTree) :
    (tree.overwrite content place).outline = tree.outline := by
  induction place generalizing tree with
  | nil =>
    cases tree with
    | file old => rfl
    | folder entries => rfl
  | cons name rest ih =>
    cases tree with
    | file old => rfl
    | folder entries =>
      simp only [overwrite, outline, outlineEntries_modify ih]

mutual

/-- The walk through the outline finds the same files. -/
theorem filesWhere_outline (keep : List String → Bool) (above : List String) :
    ∀ tree : FileTree, filesWhere keep above tree.outline = filesWhere keep above tree
  | .file _ => rfl
  | .folder entries => entriesWhere_outline keep above entries

/-- The walk through the outlines of entries finds the same files. -/
theorem entriesWhere_outline (keep : List String → Bool) (above : List String) :
    ∀ entries : List (String × FileTree),
      entriesWhere keep above (outlineEntries entries) = entriesWhere keep above entries
  | [] => rfl
  | (name, tree) :: rest => by
    rw [outlineEntries, entriesWhere, entriesWhere, filesWhere_outline keep _ tree,
      entriesWhere_outline keep above rest]

end

end FileTree

namespace Workspace

/-- The workspace without the contents of its files. -/
def outline (workspace : Workspace) : Workspace :=
  { workspace with root := workspace.root.outline }

variable (workspace : Workspace)

/-- One step along a path does not depend on contents. -/
theorem follow_outline : workspace.outline.follow = workspace.follow := by
  funext place component
  simp only [follow, outline, FileTree.descend?_outline]
  cases workspace.root.descend? place with
  | none => rfl
  | some tree =>
    cases tree with
    | file content => rfl
    | folder entries =>
      cases component with
      | name text =>
        simp only [Option.map_some, FileTree.outline, FileTree.contains_outlineEntries]
      | _ => rfl

/-- Whether a path can mean what is at a place does not depend on contents. -/
theorem arrive_outline : workspace.outline.arrive = workspace.arrive := by
  funext path place
  simp only [arrive, outline, FileTree.descend?_outline]
  cases workspace.root.descend? place with
  | none => rfl
  | some tree =>
    cases tree with
    | file content => rfl
    | folder entries => rfl

/-- Where a path leads does not depend on contents. -/
theorem locate_outline (path : RepoPath) :
    workspace.outline.locate path = workspace.locate path := by
  unfold locate
  rw [follow_outline, arrive_outline]
  rfl

/-- What is at a place in the outline is the outline of what is there. -/
theorem treeAt_outline (place : List String) :
    workspace.outline.treeAt place = (workspace.treeAt place).map FileTree.outline := by
  simp only [treeAt, outline, FileTree.descend?_outline]
  cases workspace.root.descend? place with
  | none => rfl
  | some tree => rfl

/-- What is found under a path in the outline is the outline of what is found. -/
theorem find_outline (path : RepoPath) :
    workspace.outline.find path = (workspace.find path).map FileTree.outline := by
  unfold find
  rw [locate_outline]
  cases workspace.locate path with
  | error problem => rfl
  | ok place => exact treeAt_outline workspace place

/-- Whether there is a file does not depend on contents. -/
theorem isFile_outline (path : RepoPath) :
    workspace.outline.isFile path = workspace.isFile path := by
  unfold isFile
  rw [find_outline]
  cases workspace.find path with
  | error problem => rfl
  | ok tree =>
    cases tree with
    | file content => rfl
    | folder entries => rfl

/-- Whether there is a folder does not depend on contents. -/
theorem isFolder_outline (path : RepoPath) :
    workspace.outline.isFolder path = workspace.isFolder path := by
  unfold isFolder
  rw [find_outline]
  cases workspace.find path with
  | error problem => rfl
  | ok tree =>
    cases tree with
    | file content => rfl
    | folder entries => rfl

/-- Which marker files there are does not depend on contents. -/
theorem find_markers_outline (base : RepoPath) (markers : List String)
    (ignored : List Glob.Pattern) :
    Markers.find workspace.outline base markers ignored =
      Markers.find workspace base markers ignored := by
  unfold Markers.find
  rw [find_outline]
  cases workspace.find base with
  | error problem => rfl
  | ok tree => simp only [Except.map, FileTree.filesWhere_outline]

/-- Two workspaces with the same folders and files. -/
def SameOutline (workspace other : Workspace) : Prop := workspace.outline = other.outline

variable {workspace} {other : Workspace}

/-- A path leads to the same place. -/
theorem SameOutline.locate (h : SameOutline workspace other) (path : RepoPath) :
    workspace.locate path = other.locate path := by
  rw [← locate_outline, h, locate_outline]

/-- The same files are there. -/
theorem SameOutline.isFile (h : SameOutline workspace other) (path : RepoPath) :
    workspace.isFile path = other.isFile path := by
  rw [← isFile_outline, h, isFile_outline]

/-- The same folders are there. -/
theorem SameOutline.isFolder (h : SameOutline workspace other) (path : RepoPath) :
    workspace.isFolder path = other.isFolder path := by
  rw [← isFolder_outline, h, isFolder_outline]

/-- The same marker files are found. -/
theorem SameOutline.find_markers (h : SameOutline workspace other) (base : RepoPath)
    (markers : List String) (ignored : List Glob.Pattern) :
    Markers.find workspace base markers ignored = Markers.find other base markers ignored := by
  rw [← find_markers_outline, h, find_markers_outline]

end Workspace

end Conventions
