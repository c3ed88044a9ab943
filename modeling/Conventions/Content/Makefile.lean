import Conventions.Json.Basic
import Conventions.Text.Blank

/-!
# Makefiles

A Makefile is read as its targets, each with its prerequisites and its recipe.
Special targets, whose names start with a dot, and assignments of variables are
left out.
-/

namespace Conventions.Makefile

/-- What is known about a target: its prerequisites and the lines of its recipe. -/
structure Target where
  prerequisites : List (List Char)
  recipe : List (List Char)
  deriving DecidableEq, Repr, Inhabited

/-- The text before a final backslash. -/
def continued? (line : List Char) : Option (List Char) :=
  match line.reverse with
  | '\\' :: rest => some rest.reverse
  | _ => none

/-- Joins lines that end in a backslash with the next one; `pending` is the joined
line so far. -/
def joinFrom (pending : Option (List Char)) : List (List Char) → List (List Char)
  | [] => pending.toList
  | line :: rest =>
    let line := match pending with
      | some joined => joined ++ ' ' :: Text.trimStart line
      | none => line
    match continued? line with
    | some head => joinFrom (some (Text.trimEnd head)) rest
    | none => line :: joinFrom none rest

/-- The lines of a text after the continued ones have been joined by a space. -/
def logicalLines (text : List Char) : List (List Char) := joinFrom none (Text.lines text)

/-- What a line is. -/
inductive Line where
  | recipe (command : List Char)
  /-- Blank, or a comment. -/
  | nothing
  /-- Targets with their prerequisites. -/
  | rule (targets : List (List Char)) (prerequisites : List (List Char))
  /-- An assignment, or a line without any target. -/
  | other
  deriving DecidableEq, Repr

/-- Whether a name is that of a special target. -/
def isSpecial (name : List Char) : Bool := name.head? == some '.'

/-- Reads the part of a rule behind its colons. -/
def classifyRule (before after : List Char) : Line :=
  let prerequisites := (after.takeWhile (· != ';')).takeWhile (· != '#')
  let targets := (Text.words before).filter (!isSpecial ·)
  if prerequisites.contains '=' || targets.isEmpty then .other
  else .rule targets (Text.words prerequisites)

/-- Reads a line that is neither blank nor a comment nor part of a recipe. -/
def classifyTrimmed (line : List Char) : Line :=
  let before := line.takeWhile (· != ':')
  match line.dropWhile (· != ':') with
  | [] => .other
  | _ :: after =>
    if before.contains '=' then .other
    else match after with
      | '=' :: _ => .other
      | ':' :: '=' :: _ => .other
      | ':' :: after => classifyRule before after
      | after => classifyRule before after

/-- Reads a line. -/
def classify (line : List Char) : Line :=
  match line with
  | '\t' :: command => .recipe (Text.trimEnd command)
  | _ =>
    match Text.trim line with
    | [] => .nothing
    | '#' :: _ => .nothing
    | trimmed => classifyTrimmed trimmed

/-- The targets seen so far and those to which a recipe line would belong. -/
structure State where
  targets : List (List Char × Target)
  current : List (List Char)
  deriving DecidableEq, Repr

/-- Changes the target with a name, adding it if it is not there. -/
def update (change : Target → Target) (name : List Char) :
    List (List Char × Target) → List (List Char × Target)
  | [] => [(name, change ⟨[], []⟩)]
  | (known, target) :: rest =>
    if known = name then (known, change target) :: rest
    else (known, target) :: update change name rest

/-- Reads one line into the state. -/
def State.read (state : State) (line : Line) : State :=
  match line with
  | .recipe command =>
    { state with
      targets := state.current.foldl
        (fun targets name =>
          update (fun t => { t with recipe := t.recipe ++ [command] }) name targets)
        state.targets }
  | .nothing => state
  | .rule names prerequisites =>
    ⟨names.foldl
      (fun targets name =>
        update (fun t => { t with prerequisites := t.prerequisites ++ prerequisites }) name targets)
      state.targets, names⟩
  | .other => { state with current := [] }

/-- The targets of a text, in the order in which they are first named. -/
def targets (text : List Char) : List (List Char × Target) :=
  ((logicalLines text).foldl (fun (state : State) line => state.read (classify line))
    (⟨[], []⟩ : State)).targets

/-- Pieces with a separator between them. -/
def joinWith (separator : Char) (pieces : List (List Char)) : String :=
  String.ofList (List.intercalate [separator] pieces)

/-- A target as a value. -/
def Target.toJson (target : Target) : Json :=
  .object [("dependencies", .string (joinWith ' ' target.prerequisites)),
    ("contents", .string (joinWith '\n' target.recipe))]

/-- The targets of a Makefile as an object. -/
def parse (text : String) : Json :=
  .object ((targets text.toList).map fun (name, target) => (String.ofList name, target.toJson))

end Conventions.Makefile
