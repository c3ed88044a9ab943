import Conventions.Config.Preset
import Conventions.Json.Printer
import Conventions.Rule.Basic
import Conventions.Workspace.Levels

/-!
# Resolving configurations

The configuration that applies to a directory: every level from the root down to it
that has a config file adds the presets it extends and then its own settings. The
root always counts, and extends the recommended preset unless it says otherwise.
-/

namespace Conventions

/-- A resolved configuration and what went into it. -/
structure Resolution where
  config : Config
  /-- The config files that were read, root first. -/
  files : List RepoPath
  /-- The presets that were laid under, in their order. -/
  presets : List String
  deriving Inhabited

/-- Checks that every rule of a configuration exists. The file is named if one does
not. -/
def Config.validate (config : Config) (file : RepoPath) : Except Failure Unit :=
  match config.rules? with
  | none => .error (.missingRules file)
  | some rules =>
    match (Entries.keys rules).find? fun name => (Rule.ofName? name).isNone with
    | some name => .error (.unknownRule name file)
    | none => .ok ()

/-- Reads a config file. -/
def Config.load (workspace : Workspace) (file : RepoPath) : Except Failure Config :=
  match workspace.read file with
  | .error error => .error (.access error)
  | .ok text =>
    match Config.parse text with
    | .error fault => .error (.unreadableConfig file fault.text)
    | .ok config => .ok config

namespace Resolution

/-- Where every resolution starts. -/
def start : Resolution where
  config := { extends? := some [Preset.recommended], useGitignore? := some true }
  files := []
  presets := []

/-- Lays one preset over what is resolved so far. -/
def addPreset (referencedFrom : RepoPath) (resolution : Resolution) (name : String) :
    Except Failure Resolution := do
  let preset ← Preset.resolve name referencedFrom.text
  return { resolution with
    config := resolution.config.merge preset
    presets := resolution.presets ++ [name] }

/-- The presets that a level extends. -/
def extended (level : Level) (own : Config) : List String :=
  own.extends?.getD (if level.isRoot then [Preset.recommended] else [])

/-- Lays what a level says over what is resolved so far. -/
def addLevel (level : Level) (file : RepoPath) (own : Config) (resolution : Resolution) :
    Except Failure Resolution := do
  if own.markers?.isSome && !level.isRoot then throw (.markersBelowRoot file)
  let resolution ← (extended level own).foldlM (addPreset file) resolution
  let config := resolution.config.merge own
  config.validate file
  return { resolution with config }

/-- What a level adds. A level without a config file adds nothing, unless it is the
root. -/
def step (workspace : Workspace) (fileName : String) (resolution : Resolution) (level : Level) :
    Except Failure Resolution := do
  let file := level.path.join fileName
  if workspace.isFile file then
    let own ← Config.load workspace file
    addLevel level file own { resolution with files := resolution.files ++ [file] }
  else if level.isRoot then addLevel level file {} resolution
  else return resolution

/-- The configuration that applies to a target. -/
def resolve (workspace : Workspace) (target root : RepoPath) (fileName : String) :
    Except Failure Resolution := do
  (← levels root target).foldlM (step workspace fileName) start

/-- The numbered list of files. -/
def fileLines (number : Nat) : List RepoPath → List String
  | [] => []
  | file :: rest => ("  " ++ toString number ++ ". " ++ file.text) :: fileLines (number + 1) rest

/-- The lines that tell where a configuration comes from, and the configuration. -/
def lines (resolution : Resolution) : List String :=
  (if resolution.files.isEmpty then ["Loaded config files: (none)"]
    else "Loaded config files:" :: fileLines 1 resolution.files) ++
  [""] ++
  [if resolution.presets.isEmpty then "Extensions: (none)"
    else "Extensions: " ++ ", ".intercalate resolution.presets] ++
  ["", "Resolved config:", resolution.config.toJson.indented]

/-- The text that shows a resolution. -/
def text (resolution : Resolution) : String :=
  String.join (resolution.lines.map (· ++ "\n"))

end Resolution

end Conventions
