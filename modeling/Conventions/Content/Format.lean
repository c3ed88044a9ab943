import Conventions.Content.Makefile
import Conventions.Failure
import Conventions.Json.Record

/-!
# Formats

The formats of files that have parts, told by the name of the file.
-/

namespace Conventions

/-- A format of files with parts. -/
inductive ContentFormat where
  | json
  | yaml
  | makefile
  deriving DecidableEq, Repr

namespace ContentFormat

/-- The names of makefiles. -/
def makefileNames : List String := ["Makefile", "makefile", "GNUmakefile"]

/-- The format that goes with an extension in lower case. -/
def ofExtension? : String → Option ContentFormat
  | "json" => some json
  | "yml" | "yaml" => some yaml
  | "mk" => some makefile
  | _ => none

/-- The format of a file. The case of its extension does not count. -/
def ofPath? (path : RepoPath) : Option ContentFormat := do
  let name ← path.fileName?
  if makefileNames.contains name then return makefile
  ofExtension? ((← RepoPath.extensionOf? name).map Char.toLower)

end ContentFormat

end Conventions
