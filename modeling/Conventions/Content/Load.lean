import Conventions.Content.Format
import Conventions.Content.Query
import Conventions.Content.Similarity
import Conventions.Yaml.ToJson
import Conventions.Yaml.Value

/-!
# Loading files with parts

A file of any of the formats is loaded as one JSON value, so that parts of files of
different formats can be compared.
-/

namespace Conventions

/-- The value of a text in a format, or why it has none. -/
def ContentFormat.value (text : String) : ContentFormat → Except String Json
  | json => (Json.parse text).mapError Json.Fault.text
  | yaml => do (← (Yaml.parse text).mapError Yaml.Problem.text).toJson
  | makefile => .ok (Makefile.parse text)

/-- The value of the text of a file in a format. -/
def ContentFormat.parse (file : RepoPath) (text : String) (format : ContentFormat) :
    Except Failure Json :=
  (format.value text).mapError (.unreadableContent file)

namespace Workspace

/-- The text of a file; a failure to read it ends what it is read for. -/
def readText (workspace : Workspace) (path : RepoPath) : Except Failure String :=
  (workspace.read path).mapError .access

/-- The value of a file, in the format that its name tells. -/
def load (workspace : Workspace) (path : RepoPath) : Except Failure Json := do
  match ContentFormat.ofPath? path with
  | none => throw (.unsupportedFormat path)
  | some format => format.parse path (← workspace.readText path)

/-- How much of the text of a file survives in another one. -/
def fileSimilarity (round : Similarity.Rounding) (workspace : Workspace)
    (reference other : RepoPath) : Except Failure Rat := do
  let text ← workspace.readText reference
  let otherText ← workspace.readText other
  return Similarity.ofTexts round text otherText

/-- The scores of two selected parts of files. -/
def partSimilarity (round : Similarity.Rounding) (workspace : Workspace) (file : RepoPath)
    (query : Query) (otherFile : RepoPath) (otherQuery : Query) (matching : Bool) :
    Except Failure Similarity.Scores := do
  let value ← workspace.load file
  let other ← workspace.load otherFile
  return Similarity.ofValues round (query.select value) (otherQuery.select other) matching

end Workspace

end Conventions
