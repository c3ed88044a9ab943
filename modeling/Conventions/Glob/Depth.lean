import Conventions.Glob.Parser
import Conventions.Text.Blank

/-!
# Patterns at any depth

A pattern that may match anywhere below a directory is one behind a deep start.
-/

namespace Conventions.Glob

/-- The text of a pattern without separators at its end. -/
def withoutTrailing (pattern : String) : String :=
  String.ofList (pattern.toList.reverse.dropWhile (· == '/')).reverse

/-- The text of the pattern that matches what a given one matches at any depth. -/
def atAnyDepth (pattern : String) : String :=
  let text := withoutTrailing pattern
  if Text.startsWith text "**/" then text else "**/" ++ text

end Conventions.Glob
