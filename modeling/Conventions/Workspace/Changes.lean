import Conventions.Workspace.Markers

/-!
# Changes

The files whose texts differ between two trees.
-/

namespace Conventions.FileTree

/-- The text of a file. -/
def text? : FileTree → Option String
  | .file (.text value) => some value
  | _ => none

/-- All files of a tree, each by the names that lead to it. -/
def files (tree : FileTree) : List (List String) := tree.filesWhere (fun _ => true) []

/-- The texts in the second tree that are not the same in the first one, each with the
names that lead to its file. -/
def changes (before after : FileTree) : List (List String × String) :=
  after.files.filterMap fun names => do
    let text ← (← after.descend? names).text?
    if (before.descend? names).bind text? = some text then none else some (names, text)

end Conventions.FileTree
