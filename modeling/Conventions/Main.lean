import Conventions.CommandLine.Run
import Conventions.Workspace.Changes

/-!
# The program

Reads the repository into a workspace, runs what the arguments ask for, and writes the
files that have changed.
-/

namespace Conventions.Program

/-- The names that lead from the root to an absolute path. -/
def namesOf (path : String) : List String := (RepoPath.mk path).components |> RepoPath.names

/-- Reads a file, or a folder with everything in it. -/
partial def readTree (path : String) : IO FileTree := do
  let place ← IO.FS.realPath path
  if ← place.isDir then
    let entries ← (← place.readDir).toList.mapM fun entry => do
      return (entry.fileName, ← readTree entry.path.toString)
    return .folder (Entries.sorted entries)
  else return .file (.ofBytes (← IO.FS.readBinFile path))

/-- The path from the root to something that is there; any other path stays as it is. -/
def realPath (path : RepoPath) : IO RepoPath := do
  try
    let place ← IO.FS.realPath path.text
    return if ← place.pathExists then ⟨place.toString⟩ else path
  catch _ => return path

/-- The workspace with what is found at a path, unless that is known. -/
def addPlace (workspace : Workspace) (path : RepoPath) : IO Workspace := do
  if !path.isAbsolute || workspace.contains path then return workspace
  let tree ← readTree path.text
  return { workspace with root := FileTree.put tree (namesOf path.text) workspace.root }

/-- The workspace of a base directory and the current directory. -/
def readWorkspace (base : RepoPath) : IO Workspace := do
  let current := namesOf (← IO.currentDir).toString
  let root : FileTree ←
    if base.isAbsolute then do
      let tree ← readTree base.text
      pure (FileTree.put tree (namesOf base.text) (.folder []))
    else pure (.folder [])
  let withCurrent :=
    if (root.descend? current).isSome then root else FileTree.put (.folder []) current root
  return ⟨withCurrent, current⟩

/-- The action with its path as one from the root. -/
def absoluteAction : CommandLine.Action → IO CommandLine.Action
  | .showConfig (some path) => return .showConfig (some (← realPath path))
  | action => return action

/-- Writes the files that have changed. -/
def writeChanges (before after : Workspace) : IO Unit :=
  for (names, text) in FileTree.changes before.root after.root do
    IO.FS.writeFile ("/" ++ "/".intercalate names) text

/-- Runs an invocation and prints what it answers. -/
def runInvocation (invocation : CommandLine.Invocation) : IO UInt32 := do
  let base ← realPath invocation.base
  let action ← absoluteAction invocation.action
  let before ← readWorkspace base
  let before ← match action with
    | .showConfig (some path) => addPlace before path
    | _ => pure before
  let (outcome, after) := CommandLine.run before { invocation with base, action }
  writeChanges before after
  match outcome with
  | .ok answer =>
    IO.print answer.output
    return UInt32.ofNat answer.exitCode
  | .error failure =>
    IO.eprintln failure.message
    return 1

/-- How the program is called. -/
def usage : String :=
  "Usage: monolint [--base-dir DIR] [--config NAME] [--verbose] [--fix] [--filter REGEX]\n" ++
  "                [--format text|json]\n" ++
  "       monolint config show [--path DIR]\n" ++
  "       monolint rules [--examples]\n"

/-- The name and the version of the program. -/
def versionText : String := "monolint 0.5.0\n"

/-- Answers a question, or refuses arguments that are not understood. -/
def answerProblem (problem : CommandLine.UsageProblem) : IO UInt32 := do
  match problem with
  | .version => IO.print versionText
  | .help => IO.print usage
  | _ => IO.eprint usage
  return UInt32.ofNat problem.exitCode

end Conventions.Program

/-- The program. -/
def main (arguments : List String) : IO UInt32 :=
  match Conventions.CommandLine.Invocation.ofArguments arguments with
  | .ok invocation => Conventions.Program.runInvocation invocation
  | .error problem => Conventions.Program.answerProblem problem
