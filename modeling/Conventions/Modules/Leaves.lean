import Conventions.Path

/-!
# Leaves

Of items with paths, those whose directory holds no other item's directory.
-/

namespace Conventions

/-- Whether a path is a proper part of another one. -/
def RepoPath.holds (path other : RepoPath) : Bool := !other.same path && path.contains other

/-- The items of which no other item is below, in their order. -/
def leaves {α : Type} (pathOf : α → RepoPath) (items : List α) : List α :=
  items.filter fun item => !items.any fun other => (pathOf item).holds (pathOf other)

end Conventions
