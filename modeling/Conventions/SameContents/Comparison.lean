import Conventions.Content.Load
import Conventions.Finding

/-!
# Comparing modules

The files of a module are compared with those of a reference module: as a whole, or
part by part. A file that one of the two lacks is passed over. The rounding of the
scores is a parameter.
-/

namespace Conventions.SameContents

/-- A score in a message. -/
def percent (score : Binary64) : String := score.messageText ++ "%"

/-- The finding that a target is similar enough to its counterpart in the reference, or
that it is not. -/
def judge (reference : RepoModule) (entry : FileEntry) (target : String) (score : Rat) :
    Finding :=
  let actual := percent (Binary64.ofRat score)
  if entry.minimum ≤ score then
    Finding.of .sameContents true target
      ("Content is similar to '" ++ reference.name ++ "' (" ++ actual ++ ")")
  else
    Finding.of .sameContents false target
      ("Content should be at least " ++ percent entry.minSimilarity ++ " similar to '" ++
        reference.name ++ "' (actual: " ++ actual ++ ")")

/-- The finding about a target in the reference itself. -/
def itself (target : String) : Finding := Finding.of .sameContents true target "Reference file"

/-- The finding about a target that cannot be compared. -/
def refuse (target reason : String) : Finding := Finding.of .sameContents false target reason

section

variable (round : Similarity.Rounding) (workspace : Workspace)

/-- Compares a file as a whole. -/
def compareWhole (reference module : RepoModule) (entry : FileEntry) : Finding :=
  let file := module.file entry.name
  if reference.path.same module.path then itself file.text
  else match workspace.fileSimilarity round (reference.file entry.name) file with
    | .ok score => judge reference entry file.text score
    | .error failure => refuse file.text failure.message

/-- The findings about the scores of a part. If the score of all is too low, so are the
keys that have a low score of their own. -/
def judgeScores (reference : RepoModule) (entry : FileEntry) (target : String)
    (scores : Similarity.Scores) : List Finding :=
  let total := (Entries.find? Similarity.all scores).getD 0
  judge reference entry target total ::
    if total < entry.minimum then
      (scores.filter fun (key, score) => key != Similarity.all && score < entry.minimum).map
        fun (key, score) => judge reference entry (target ++ "." ++ key) score
    else []

/-- Compares a part, given the documents that it is a part of. An empty part is like one
that is absent. -/
def comparePart (reference module : RepoModule) (entry : FileEntry)
    (referenceDocument document : Json) (selector : Selector) : List Finding :=
  let target := (module.file entry.name).text ++ "[" ++ selector.raw ++ "]"
  match Similarity.present (selector.query.select referenceDocument),
      Similarity.present (selector.query.select document), selector.required with
  | none, _, true =>
    [refuse target ("Required content not found in reference module '" ++ reference.name ++ "'")]
  | some _, none, true => [refuse target "Required content not found"]
  | none, none, false => []
  | expected, found, _ =>
    if reference.path.same module.path then [itself target]
    else judgeScores reference entry target (Similarity.ofValues round expected found true)

/-- The documents in a file of the reference and in that of a module. -/
def documents (reference module : RepoModule) (entry : FileEntry) :
    Except Failure (Json × Json) := do
  let expected ← workspace.load (reference.file entry.name)
  let found ← workspace.load (module.file entry.name)
  return (expected, found)

/-- Compares the selected parts of a file. -/
def compareParts (reference module : RepoModule) (entry : FileEntry) : List Finding :=
  let file := module.file entry.name
  if (ContentFormat.ofPath? file).isNone then
    [refuse file.text "Selectors can only be used with .json, .yml, .yaml and Makefile files"]
  else match documents workspace reference module entry with
    | .error failure => [refuse file.text failure.message]
    | .ok (expected, found) =>
      entry.selectors.flatMap (comparePart round reference module entry expected found)

/-- Compares a file, if both modules have it. -/
def compareFile (reference module : RepoModule) (entry : FileEntry) : List Finding :=
  let isShared := workspace.isFile (reference.file entry.name) &&
    workspace.isFile (module.file entry.name)
  if !isShared then []
  else if entry.selectors.isEmpty then [compareWhole round workspace reference module entry]
  else compareParts round workspace reference module entry

/-- Compares the files of a module with those of a reference. -/
def compareFiles (options : Options) (reference module : RepoModule) : List Finding :=
  ((options.files.filter (·.enabled)).flatMap
    (compareFile round workspace reference module)).map (Finding.about module)

/-- Compares modules with a reference. -/
def compareAll (options : Options) (members : List RepoModule) (reference : RepoModule) :
    List Finding :=
  members.flatMap (compareFiles round workspace options reference)

end

end Conventions.SameContents
