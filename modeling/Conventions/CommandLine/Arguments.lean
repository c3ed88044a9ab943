import Conventions.CommandLine.Basic
import Conventions.Text.Blank

/-!
# Reading arguments

The arguments are read from left to right. A command below the current one starts a
level of its own with the rest of them. The value of an option may be attached to it or
follow it, and a value that follows is looked at only when the next option or the end of
the level comes.
-/

namespace Conventions.CommandLine

/-- Options with their values; an option that takes none has the empty one. -/
abbrev Given := List (Opt × String)

/-- A command with the options that are given for it. -/
structure CommandLevel where
  command : Command
  given : Given
  deriving Repr, Inhabited

/-- How far a level has been read. -/
structure LevelState where
  given : Given := []
  /-- An option that is not settled yet, with its value if that has been seen. -/
  pending? : Option (Opt × Option String) := none

namespace LevelState

/-- Whether the next argument may be the value of an option. -/
def awaited? (state : LevelState) : Option Opt :=
  match state.pending? with
  | some (option, none) => some option
  | _ => none

/-- Adds an option with its value. -/
def give (option : Opt) (value? : Option String) (given : Given) : Except UsageProblem Given :=
  match value? with
  | none => .error .invalidValue
  | some value =>
    if given.any (·.1 == option) then .error .givenTwice
    else if option.accepts value then .ok (given ++ [(option, value)])
    else .error .invalidValue

/-- Settles the option that is pending. -/
def settle (state : LevelState) : Except UsageProblem Given :=
  match state.pending? with
  | some (option, value?) => give option value? state.given
  | none => .ok state.given

/-- Takes an option without a value. -/
def takeFlag (option : Opt) (state : LevelState) : Except UsageProblem LevelState := do
  let given ← state.settle
  match option with
  | .help => throw .help
  | .version => throw .version
  | _ => return { given := ← give option (some "") given }

/-- Takes an option with a value that is attached to it. -/
def takeAttached (option : Opt) (value : String) (state : LevelState) :
    Except UsageProblem LevelState := do
  let given ← state.settle
  return { given := ← give option (some value) given }

/-- Takes an option whose value is to follow. -/
def takeAwaiting (option : Opt) (state : LevelState) : Except UsageProblem LevelState := do
  return { given := ← state.settle, pending? := some (option, none) }

/-- Takes an option by its long name, with the value that is attached to it, if any. -/
def takeLong (command : Command) (name : String) (attached? : Option String)
    (state : LevelState) : Except UsageProblem LevelState :=
  match command.long? name with
  | none => .error .unknownArgument
  | some option =>
    match option.valueKind, attached? with
    | .none, none => state.takeFlag option
    | .none, some _ => .error .needlessValue
    | _, none => state.takeAwaiting option
    | _, some value => state.takeAttached option value

/-- The value that is attached to a short name, behind an equals sign or not. -/
def attachedValue : List Char → String
  | '=' :: value => String.ofList value
  | value => String.ofList value

/-- Takes options by their short names. What follows an option that takes a value is its
value. -/
def takeShort (command : Command) (state : LevelState) :
    List Char → Except UsageProblem LevelState
  | [] => .ok state
  | name :: rest =>
    match command.short? name with
    | none => .error .unknownArgument
    | some option =>
      if option.valueKind = .none then do
        takeShort command (← state.takeFlag option) rest
      else if rest.isEmpty then state.takeAwaiting option
      else state.takeAttached option (attachedValue rest)

end LevelState

/-- The parts of a text before and behind the first equals sign. -/
def splitAtEquals (text : List Char) : String × Option String :=
  (String.ofList (text.takeWhile (· != '=')),
    match text.dropWhile (· != '=') with
    | _ :: value => some (String.ofList value)
    | [] => none)

/-- The forms of an argument. -/
inductive ArgumentForm where
  /-- Two hyphens: what follows are no options. -/
  | separator
  | long (name : String) (attached? : Option String)
  | short (names : List Char)
  | plain (text : String)

/-- The form of an argument. -/
def ArgumentForm.of (argument : String) : ArgumentForm :=
  match argument.toList with
  | ['-', '-'] => separator
  | '-' :: '-' :: rest => let (name, attached?) := splitAtEquals rest; long name attached?
  | '-' :: name :: rest => short (name :: rest)
  | _ => plain argument

/-- What an argument is that is neither an option nor a value nor a known command. -/
def unmatched (command : Command) : UsageProblem :=
  if command.subcommands.isEmpty then .unknownArgument else .unknownCommand

/-- What the first argument behind a separator is: nothing can stand there. -/
def behindSeparator (command : Command) (argument : String) : UsageProblem :=
  if (command.subcommand? argument).isSome then .unknownArgument else unmatched command

/-- What a question for help leads to, given the names of the commands that it is about. -/
def helpOn (command : Command) : List String → UsageProblem
  | [] => .help
  | name :: rest =>
    match command.subcommand? name with
    | some below => helpOn below rest
    | none => .unknownCommand

/-- The level, when no command below it is given. -/
def lastLevel (command : Command) (state : LevelState) :
    Except UsageProblem (List CommandLevel) := do
  let given ← state.settle
  if command.needsSubcommand then
    throw (if given.isEmpty then .nothingGiven else .missingCommand)
  return [⟨command, given⟩]

/-- Reads the arguments of a command, and then those of the commands below it. -/
def readLevels (command : Command) (state : LevelState) :
    List String → Except UsageProblem (List CommandLevel)
  | [] => lastLevel command state
  | argument :: rest =>
    match state.awaited?, command.subcommand? argument with
    | none, some .help => .error (helpOn command rest)
    | none, some below => do
      let levels ← readLevels below {} rest
      return ⟨command, ← state.settle⟩ :: levels
    | awaited?, _ =>
      match ArgumentForm.of argument, awaited? with
      | .separator, _ =>
        match rest with
        | [] => lastLevel command state
        | next :: _ => .error (behindSeparator command next)
      | .long name attached?, _ => do
        readLevels command (← state.takeLong command name attached?) rest
      | .short names, _ => do readLevels command (← state.takeShort command names) rest
      | .plain text, some option =>
        readLevels command { state with pending? := some (option, some text) } rest
      | .plain _, none => .error (unmatched command)

end Conventions.CommandLine
