import Conventions.Failure

/-!
# Levels

The directories on the way from a root down to a target below it. They are found
on the paths alone, and given one after the other.
-/

namespace Conventions

/-- A directory on the way, and whether the way starts there. -/
structure Level where
  path : RepoPath
  isRoot : Bool
  deriving DecidableEq, Repr

/-- The way from a root down through directories with given names, and how many of its
levels have been given. -/
structure Descent where
  root : RepoPath
  names : List String
  given : Nat := 0
  deriving DecidableEq, Repr

namespace Descent

/-- The way from a root down to a target, which has to be the root or below it. Roots,
dots and double dots behind the root are passed over. -/
def between (root target : RepoPath) : Except Failure Descent :=
  match target.relativeTo? root with
  | none => .error (.outsideRoot target root)
  | some below => .ok { root, names := RepoPath.names below }

/-- The next level, and the way once it is given. -/
def next? (way : Descent) : Option (Level × Descent) :=
  if way.names.length < way.given then none
  else
    let path := (way.names.take way.given).foldl RepoPath.join way.root
    some (⟨path, way.given == 0⟩, { way with given := way.given + 1 })

/-- How many levels are still to come. -/
def remaining (way : Descent) : Nat := way.names.length + 1 - way.given

/-- The levels that are still to come, `count` of them at most. -/
def take : Nat → Descent → List Level
  | 0, _ => []
  | count + 1, way =>
    match way.next? with
    | none => []
    | some (level, next) => level :: take count next

end Descent

/-- The levels from a root down to a target: the root and one for each name. -/
def levels (root target : RepoPath) : Except Failure (List Level) := do
  let way ← Descent.between root target
  return way.take (way.names.length + 1)

end Conventions
