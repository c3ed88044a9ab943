import Conventions.Failure
import Conventions.Glob.Depth

/-!
# Ignored paths

Two files at the base directory list what is to be ignored, one pattern a line. A
pattern stands for itself at any depth and for everything below what it matches.
-/

namespace Conventions.Ignored

/-- The name of the file with patterns of the linter's own. -/
def ownFile : String := ".monolintignore"

/-- The name of the file with patterns of the version control. -/
def gitFile : String := ".gitignore"

/-- The patterns in the text of an ignore file: its lines without those that are blank
or comments. -/
def patternsOf (text : String) : List String :=
  ((Text.lines text.toList).map Text.trim).filterMap fun line =>
    if line.isEmpty || line.head? == some '#' then none else some (String.ofList line)

/-- A pattern without a separator in front of it. -/
def withoutLeading (pattern : String) : String :=
  match pattern.toList with
  | '/' :: rest => String.ofList rest
  | _ => pattern

/-- The patterns in an ignore file below a base directory; none if it cannot be read. -/
def readPatterns (workspace : Workspace) (base : RepoPath) (file : String) : List String :=
  match workspace.read (base.join file) with
  | .ok text => patternsOf text
  | .error _ => []

/-- The patterns that apply below a base directory. -/
def patterns (workspace : Workspace) (base : RepoPath) (useGitignore : Bool) : List String :=
  (if useGitignore then (readPatterns workspace base gitFile).map withoutLeading else []) ++
    readPatterns workspace base ownFile

/-- The globs for one pattern: one for what it matches and one for all that is below.
Negated patterns and the empty one have none. -/
def globsOf (pattern : String) : Except Glob.Error (List Glob.Pattern) :=
  if Text.startsWith pattern "!" || (Glob.withoutTrailing pattern).isEmpty then .ok []
  else do
    let anchored := Glob.atAnyDepth pattern
    let self ← Glob.parse anchored
    let below ← Glob.parse (anchored ++ "/**")
    return [self, below]

/-- The globs for a list of patterns. -/
def globs (patterns : List String) : Except Glob.Error (List Glob.Pattern) := do
  return (← patterns.mapM globsOf).flatten

end Conventions.Ignored
