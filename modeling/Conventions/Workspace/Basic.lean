import Conventions.Entries
import Conventions.Path

/-!
# Workspaces

A workspace is a file tree together with the directory that relative paths start
from. Reading and writing are functions on it, and whatever can go wrong is a
value.
-/

namespace Conventions

/-- What a file holds: text, or bytes that are not the encoding of any text. -/
inductive FileContent where
  | text (value : String)
  | undecodable (bytes : ByteArray)

/-- The content with given bytes. -/
def FileContent.ofBytes (bytes : ByteArray) : FileContent :=
  match String.fromUTF8? bytes with
  | some value => .text value
  | none => .undecodable bytes

/-- A file or a folder. The entries of a folder ascend by name. -/
inductive FileTree where
  | file (content : FileContent)
  | folder (entries : List (String × FileTree))

instance : Inhabited FileTree := ⟨.folder []⟩

namespace FileTree

/-- The entries of a folder; a file has none. -/
def entries : FileTree → Entries FileTree
  | file _ => []
  | folder entries => entries

/-- Whether it is a folder. -/
def isFolder : FileTree → Bool
  | file _ => false
  | folder _ => true

/-- What is found below a tree under names, one for each level. -/
def descend? : List String → FileTree → Option FileTree
  | [], tree => some tree
  | name :: rest, folder entries => do descend? rest (← Entries.find? name entries)
  | _ :: _, file _ => none

/-- Puts a tree under names, adding the folders that are missing on the way. A file
on the way stays as it is. -/
def put (tree : FileTree) : List String → FileTree → FileTree
  | [], _ => tree
  | name :: rest, folder entries =>
    let below := (Entries.find? name entries).getD (.folder [])
    folder (Entries.insertSorted name (put tree rest below) entries)
  | _ :: _, file content => file content

/-- Gives the file under names another content. Everything else stays as it is. -/
def overwrite (content : FileContent) : List String → FileTree → FileTree
  | [], file _ => file content
  | name :: rest, folder entries => folder (Entries.modify name (overwrite content rest) entries)
  | _, tree => tree

/-- Removes what is found under names. -/
def remove : List String → FileTree → FileTree
  | [name], folder entries => folder (entries.filter fun entry => entry.1 != name)
  | name :: rest, folder entries =>
    match Entries.find? name entries with
    | some below => folder (Entries.insertSorted name (remove rest below) entries)
    | none => folder entries
  | _, tree => tree

end FileTree

/-- Why a path cannot be read. -/
inductive AccessError where
  | notFound
  | notAFolder
  | isAFolder
  | notText
  deriving DecidableEq, Repr, Inhabited

/-- The wording of the error. -/
def AccessError.text : AccessError → String
  | notFound => "No such file or directory (os error 2)"
  | notAFolder => "Not a directory (os error 20)"
  | isAFolder => "Is a directory (os error 21)"
  | notText => "stream did not contain valid UTF-8"

/-- The text of a file. -/
def FileTree.text : FileTree → Except AccessError String
  | folder _ => .error .isAFolder
  | file (.undecodable _) => .error .notText
  | file (.text value) => .ok value

/-- A file tree and the names that lead to the current directory. -/
structure Workspace where
  root : FileTree
  current : List String

namespace Workspace

/-- Goes from one place to the next along a component. Each place on the way must be
a folder. -/
def follow (workspace : Workspace) (place : List String) (component : Component) :
    Except AccessError (List String) :=
  match workspace.root.descend? place with
  | none => .error .notFound
  | some (.file _) => .error .notAFolder
  | some (.folder entries) =>
    match component with
    | .root => .ok []
    | .current => .ok place
    | .parent => .ok place.dropLast
    | .name name =>
      if Entries.contains name entries then .ok (place ++ [name]) else .error .notFound

/-- Whether a path can only be that of a folder, since it ends in a separator or a dot
behind one. -/
def endsInFolder (path : RepoPath) : Bool :=
  match path.pieces.reverse with
  | last :: _ :: _ => last == "" || last == "."
  | _ => false

/-- The place that a path has led to, if what is there can be meant by the path. -/
def arrive (workspace : Workspace) (path : RepoPath) (place : List String) :
    Except AccessError (List String) :=
  match workspace.root.descend? place with
  | none => .error .notFound
  | some (.file _) => if endsInFolder path then .error .notAFolder else .ok place
  | some (.folder _) => .ok place

/-- The names that lead from the root to what a path means. -/
def locate (workspace : Workspace) (path : RepoPath) : Except AccessError (List String) :=
  if path.text = "" then .error .notFound
  else do
    let start := if path.isAbsolute then [] else workspace.current
    workspace.arrive path (← path.components.foldlM workspace.follow start)

/-- The file or folder at a place. -/
def treeAt (workspace : Workspace) (place : List String) : Except AccessError FileTree :=
  match workspace.root.descend? place with
  | none => .error .notFound
  | some tree => .ok tree

/-- The file or folder that a path means. -/
def find (workspace : Workspace) (path : RepoPath) : Except AccessError FileTree := do
  workspace.treeAt (← workspace.locate path)

/-- Whether there is a file or a folder. -/
def contains (workspace : Workspace) (path : RepoPath) : Bool :=
  match workspace.find path with
  | .ok _ => true
  | .error _ => false

/-- Whether there is a file. -/
def isFile (workspace : Workspace) (path : RepoPath) : Bool :=
  match workspace.find path with
  | .ok (.file _) => true
  | _ => false

/-- Whether there is a folder. -/
def isFolder (workspace : Workspace) (path : RepoPath) : Bool :=
  match workspace.find path with
  | .ok (.folder _) => true
  | _ => false

/-- The text of a file. -/
def read (workspace : Workspace) (path : RepoPath) : Except AccessError String := do
  (← workspace.find path).text

/-- The workspace with another text in the file at a place. -/
def writeAt (workspace : Workspace) (text : String) (place : List String) :
    Except AccessError Workspace :=
  match workspace.root.descend? place with
  | some (.folder _) => .error .isAFolder
  | _ => .ok { workspace with root := workspace.root.overwrite (.text text) place }

/-- The place of a file that can be added under a path: the path ends in a name, and what
comes before it leads to a folder. -/
def placeToAdd (workspace : Workspace) (path : RepoPath) : Except AccessError (List String) :=
  match path.components.getLast? with
  | some (.name name) =>
    if endsInFolder path then .error .isAFolder
    else do
      let start := if path.isAbsolute then [] else workspace.current
      let above ← path.components.dropLast.foldlM workspace.follow start
      match ← workspace.treeAt above with
      | .folder _ => return above ++ [name]
      | .file _ => throw .notAFolder
  | _ => .error .notFound

/-- Writes a text under a path: to the file that is there, or else to a new one. -/
def write (workspace : Workspace) (path : RepoPath) (text : String) :
    Except AccessError Workspace :=
  match workspace.locate path with
  | .ok place => workspace.writeAt text place
  | .error .notFound => do
    let place ← workspace.placeToAdd path
    return { workspace with root := FileTree.put (.file (.text text)) place workspace.root }
  | .error error => .error error

/-- The path from the root to what a path means. -/
def absolute (workspace : Workspace) (path : RepoPath) : Except AccessError RepoPath := do
  return ⟨"/" ++ "/".intercalate (← workspace.locate path)⟩

/-- The path from the root to the current directory. -/
def currentPath (workspace : Workspace) : RepoPath :=
  ⟨"/" ++ "/".intercalate workspace.current⟩

end Workspace

end Conventions
