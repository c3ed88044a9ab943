import Conventions.Sorting
import Conventions.Text.Blank

/-!
# Paths

A path is kept as it was written; what it means is the list of its components.
Doubled and trailing separators and inner dots do not count, so two paths that
are written differently can have the same components. Paths are compared,
ordered and cut by components only.
-/

namespace Conventions

/-- A part of a path. A single dot counts only at the start of a path. -/
inductive Component where
  | root
  | current
  | parent
  | name (text : String)
  deriving DecidableEq, Repr, Inhabited

/-- Roots, dots and double dots come before names, and names follow each other in
the order of their texts. -/
def Component.before : Component → Component → Bool
  | .root, .root => false
  | .root, _ => true
  | .current, .root => false
  | .current, .current => false
  | .current, _ => true
  | .parent, .name _ => true
  | .parent, _ => false
  | .name a, .name b => textBefore a b
  | .name _, _ => false

/-- A path as it was written. -/
structure RepoPath where
  text : String
  deriving DecidableEq, Repr, Inhabited

namespace RepoPath

/-- The pieces between separators. -/
def pieces (path : RepoPath) : List String :=
  (Text.splitWhere (· == '/') path.text.toList).map String.ofList

/-- The component that a piece stands for when it is not the first. -/
def innerComponent? (piece : String) : Option Component :=
  if piece = "" ∨ piece = "." then none
  else if piece = ".." then some .parent
  else some (.name piece)

/-- Whether the path starts at the root. -/
def isAbsolute (path : RepoPath) : Bool := path.text.toList.head? == some '/'

/-- The components of a path. -/
def components (path : RepoPath) : List Component :=
  let inner := path.pieces.filterMap innerComponent?
  if path.isAbsolute then .root :: inner
  else if path.pieces.head? = some "." then .current :: inner
  else inner

/-- Whether two paths have the same components. -/
def same (a b : RepoPath) : Bool := a.components == b.components

/-- Whether the components of `other` start with those of `path`. -/
def contains (path other : RepoPath) : Bool := path.components.isPrefixOf other.components

/-- What is left of a list behind another with which it starts. -/
def dropStart? : List Component → List Component → Option (List Component)
  | [], rest => some rest
  | _ :: _, [] => none
  | a :: start, b :: rest => if a = b then dropStart? start rest else none

/-- The components of a path behind those of a base, if it starts with them. -/
def relativeTo? (path base : RepoPath) : Option (List Component) :=
  dropStart? base.components path.components

/-- The names among components. -/
def names (components : List Component) : List String :=
  components.filterMap fun
    | .name text => some text
    | _ => none

/-- Whether a path comes before another. -/
def before (a b : RepoPath) : Bool := listBefore Component.before a.components b.components

/-- The path of an entry of a directory. An absolute entry stands for itself. -/
def join (path : RepoPath) (entry : String) : RepoPath :=
  if entry.toList.head? = some '/' then ⟨entry⟩
  else if path.text = "" ∨ path.text.toList.getLast? = some '/' then ⟨path.text ++ entry⟩
  else ⟨path.text ++ "/" ++ entry⟩

/-- The last component if it is a name. -/
def fileName? (path : RepoPath) : Option String :=
  match path.components.getLast? with
  | some (.name text) => some text
  | _ => none

/-- Drops the pieces that do not count, given the last one first; the first piece of
a path stays. -/
def dropSilent : List String → List String
  | [] => []
  | [first] => [first]
  | piece :: rest => if piece = "" ∨ piece = "." then dropSilent rest else piece :: rest

/-- The directory that holds the path's last component, if the path has more than the
root. -/
def parent? (path : RepoPath) : Option RepoPath :=
  match path.components with
  | [] | [.root] => none
  | _ =>
    match dropSilent ((dropSilent path.pieces.reverse).drop 1) with
    | [] => some ⟨""⟩
    | [""] => some ⟨if path.isAbsolute then "/" else ""⟩
    | rest => some ⟨"/".intercalate rest.reverse⟩

/-- The part of a file name from its last dot on, without the dot. A name whose only
dot is its first character has none. -/
def extensionOf? (name : String) : Option String :=
  let reversed := name.toList.reverse
  match reversed.dropWhile (· != '.') with
  | [] | [_] => none
  | _ => some (String.ofList (reversed.takeWhile (· != '.')).reverse)

end RepoPath

end Conventions
