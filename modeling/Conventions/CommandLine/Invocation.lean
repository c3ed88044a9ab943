import Conventions.CommandLine.Arguments
import Conventions.Path

/-!
# Invocations

What the arguments ask for, with the defaults of what they leave out. The shared options
may be given for any command on the way to the one that runs; the last of them counts.
-/

namespace Conventions.CommandLine

/-- What is to be done. -/
inductive Action where
  | lint (fix : Bool) (filter? : Option String) (format : ReportFormat)
  /-- To show the configuration of a directory; the base directory if none is given. -/
  | showConfig (path? : Option RepoPath)
  | listRules (examples : Bool)
  deriving Repr, Inhabited

/-- What is to be done, and where. -/
structure Invocation where
  base : RepoPath
  configFile : String
  verbose : Bool
  action : Action
  deriving Repr, Inhabited

/-- The usual base directory. -/
def defaultBase : String := "."

/-- The usual name of config files. -/
def defaultConfigFile : String := ".monolint.json"

/-- The value of an option. -/
def Given.value? (given : Given) (option : Opt) : Option String :=
  (List.find? (fun entry => entry.1 == option) given).map (·.2)

/-- The last value of an option on the levels. -/
def lastValue? (levels : List CommandLevel) (option : Opt) : Option String :=
  (levels.filterMap fun level => Given.value? level.given option).getLast?

/-- What is to be done by a command with its own options. -/
def Action.of (level : CommandLevel) : Action :=
  let value? := Given.value? level.given
  match level.command with
  | .showConfig => .showConfig ((value? .path).map RepoPath.mk)
  | .rules => .listRules (value? .examples).isSome
  | _ =>
    .lint (value? .fix).isSome (value? .filter)
      (((value? .format).bind ReportFormat.ofName?).getD .text)

namespace Invocation

/-- What the levels ask for. -/
def ofLevels (levels : List CommandLevel) : Invocation where
  base := ⟨(lastValue? levels .baseDir).getD defaultBase⟩
  configFile := (lastValue? levels .configFile).getD defaultConfigFile
  verbose := (lastValue? levels .verbose).isSome
  action := Action.of (levels.getLastD ⟨.lint, []⟩)

/-- What arguments ask for. -/
def ofArguments (arguments : List String) : Except UsageProblem Invocation :=
  (readLevels .lint {} arguments).map ofLevels

end Invocation

end Conventions.CommandLine
