/-!
# Commands and options

What can be said on the command line: the commands, those below them, and the options
of each.
-/

namespace Conventions.CommandLine

/-- Why arguments do not lead to a run. -/
inductive UsageProblem where
  /-- An argument that means nothing where it stands. -/
  | unknownArgument
  /-- A text that is no command where one is expected. -/
  | unknownCommand
  | missingCommand
  /-- Nothing at all where a command is needed. -/
  | nothingGiven
  /-- A value that is missing or not allowed. -/
  | invalidValue
  /-- A value for an option that takes none. -/
  | needlessValue
  /-- An option that is given twice. -/
  | givenTwice
  /-- A question for help. -/
  | help
  /-- A question for the version. -/
  | version
  deriving DecidableEq, Repr, Inhabited

/-- The exit code: questions are answered, all else is refused. -/
def UsageProblem.exitCode : UsageProblem → Nat
  | help | version => 0
  | _ => 2

/-- The forms in which findings are reported. -/
inductive ReportFormat where
  | text
  | json
  deriving DecidableEq, Repr, Inhabited

/-- The name of a form. -/
def ReportFormat.name : ReportFormat → String
  | text => "text"
  | json => "json"

/-- The form with a given name. -/
def ReportFormat.ofName? (name : String) : Option ReportFormat :=
  [text, json].find? fun format => format.name == name

/-- A command. The topmost one is to lint. -/
inductive Command where
  | lint
  | config
  | showConfig
  | rules
  | help
  deriving DecidableEq, Repr, Inhabited

/-- An option. -/
inductive Opt where
  | baseDir
  | configFile
  | verbose
  | fix
  | filter
  | format
  | path
  | examples
  | help
  | version
  deriving DecidableEq, Repr, Inhabited

/-- What an option takes. -/
inductive ValueKind where
  /-- Nothing. -/
  | none
  /-- Any text. -/
  | text
  /-- A path, which is never empty. -/
  | path
  /-- The name of a form of report. -/
  | format
  deriving DecidableEq, Repr

namespace Opt

/-- The long name of an option, to be written after two hyphens. -/
def long : Opt → String
  | baseDir => "base-dir"
  | configFile => "config"
  | verbose => "verbose"
  | fix => "fix"
  | filter => "filter"
  | format => "format"
  | path => "path"
  | examples => "examples"
  | help => "help"
  | version => "version"

/-- The short name of an option, if it has one. -/
def short? : Opt → Option Char
  | baseDir => some 'b'
  | configFile => some 'c'
  | verbose => some 'v'
  | filter => some 'f'
  | help => some 'h'
  | version => some 'V'
  | _ => none

/-- What an option takes. -/
def valueKind : Opt → ValueKind
  | baseDir | path => .path
  | configFile | filter => .text
  | format => .format
  | _ => .none

/-- Whether a value is one that the option can take. -/
def accepts (option : Opt) (value : String) : Bool :=
  match option.valueKind with
  | .path => !value.isEmpty
  | .format => (ReportFormat.ofName? value).isSome
  | _ => true

end Opt

namespace Command

/-- The options that every command has. -/
def sharedOptions : List Opt := [.baseDir, .configFile, .verbose, .help]

/-- The options of a command. -/
def options : Command → List Opt
  | lint => sharedOptions ++ [.fix, .filter, .format, .version]
  | config => sharedOptions
  | showConfig => .path :: sharedOptions
  | rules => .examples :: sharedOptions
  | help => []

/-- The commands below a command, by name. -/
def subcommands : Command → List (String × Command)
  | lint => [("config", config), ("rules", rules), ("help", help)]
  | config => [("show", showConfig), ("help", help)]
  | _ => []

/-- The command with a name below a command. -/
def subcommand? (command : Command) (name : String) : Option Command :=
  (command.subcommands.find? fun entry => entry.1 == name).map (·.2)

/-- Whether a command does nothing without one below it. -/
def needsSubcommand (command : Command) : Bool := command == config

/-- The option with a long name. -/
def long? (command : Command) (name : String) : Option Opt :=
  command.options.find? fun option => option.long == name

/-- The option with a short name. -/
def short? (command : Command) (name : Char) : Option Opt :=
  command.options.find? fun option => option.short? == some name

end Command

end Conventions.CommandLine
