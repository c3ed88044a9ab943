import Conventions.Glob.Basic

/-!
# Reading glob patterns

A pattern is read one character at a time. Groups nest; a comma is special only
inside of one. A double star is deep only where it fills a component: at the
start, between separators, or behind one at the end.
-/

namespace Conventions.Glob

/-- What is wrong with a pattern. -/
inductive Problem where
  | unclosedClass
  | invalidRange (low high : Char)
  | unopenedGroup
  | unclosedGroup
  | danglingEscape
  deriving DecidableEq, Repr

/-- The wording of a problem. -/
def Problem.text : Problem → String
  | unclosedClass => "unclosed character class; missing ']'"
  | invalidRange low high =>
    "invalid range; '" ++ String.singleton low ++ "' > '" ++ String.singleton high ++ "'"
  | unopenedGroup =>
    "unopened alternate group; missing '\x7b' (maybe escape '\x7d' with '[\x7d]'?)"
  | unclosedGroup =>
    "unclosed alternate group; missing '\x7d' (maybe escape '\x7b' with '[\x7b]'?)"
  | danglingEscape => "dangling '\\'"

/-- A pattern that could not be read. -/
structure Error where
  pattern : String
  problem : Problem
  deriving DecidableEq, Repr

/-- The message of an error. -/
def Error.text (error : Error) : String :=
  "error parsing glob '" ++ error.pattern ++ "': " ++ error.problem.text

/-- A class that is being read. -/
structure ClassSoFar where
  negated : Bool
  /-- The ranges so far, last one first. -/
  ranges : List (Char × Char)
  /-- Whether a sign of negation may still come. -/
  atStart : Bool
  /-- Whether the next character is the first of the class. -/
  isFirst : Bool
  /-- Whether a hyphen waits for the end of its range. -/
  inRange : Bool

/-- The group around the current branch: its finished branches, last one first, and
the tokens before it in the enclosing branch, last one first. -/
structure Group where
  branches : List (List Token)
  outer : List Token

/-- What the next character means. -/
inductive Mode where
  | plain
  | escape
  | inClass (soFar : ClassSoFar)

/-- The reader's state: the tokens of the current branch, last one first, the groups
around it, and the last character. -/
structure ParseState where
  tokens : List Token
  groups : List Group
  mode : Mode
  previous : Option Char

namespace ParseState

/-- Adds a token behind the current character. -/
def push (state : ParseState) (token : Token) (c : Char) : ParseState :=
  { state with tokens := token :: state.tokens, mode := .plain, previous := some c }

/-- Extends the last range of a class up to a character. -/
def extendRange (soFar : ClassSoFar) (c : Char) : Except Problem ClassSoFar :=
  match soFar.ranges with
  | (low, _) :: rest =>
    if c < low then .error (.invalidRange low c)
    else .ok { soFar with ranges := (low, c) :: rest, isFirst := false, inRange := false }
  | [] => .ok { soFar with isFirst := false, inRange := false }

/-- Adds a character to a class. -/
def addToClass (soFar : ClassSoFar) (c : Char) : ClassSoFar :=
  { soFar with ranges := (c, c) :: soFar.ranges, isFirst := false, inRange := false }

/-- Reads a character of a class. -/
def readInClass (state : ParseState) (soFar : ClassSoFar) (c : Char) :
    Except Problem ParseState :=
  let go (soFar : ClassSoFar) : Except Problem ParseState :=
    .ok { state with mode := .inClass soFar, previous := some c }
  if soFar.atStart ∧ (c = '!' ∨ c = '^') then
    go { soFar with negated := true, atStart := false }
  else
    let soFar := { soFar with atStart := false }
    if c = ']' ∧ !soFar.isFirst then
      let ranges := if soFar.inRange then ('-', '-') :: soFar.ranges else soFar.ranges
      .ok (state.push (.oneOf soFar.negated ranges.reverse) c)
    else if c = '-' ∧ !soFar.isFirst ∧ !soFar.inRange then
      go { soFar with inRange := true }
    else if soFar.inRange then do go (← extendRange soFar c)
    else go (addToClass soFar c)

/-- Reads a character outside of classes that is not a star. -/
def readPlain (state : ParseState) (c : Char) : Except Problem ParseState :=
  if c = '?' then .ok (state.push .any c)
  else if c = '[' then
    .ok { state with mode := .inClass ⟨false, [], true, true, false⟩, previous := some c }
  else if c = '{' then
    .ok { state with
      tokens := []
      groups := ⟨[], state.tokens⟩ :: state.groups
      previous := some c }
  else if c = '}' then
    match state.groups with
    | [] => .error .unopenedGroup
    | group :: groups =>
      let branches := (state.tokens.reverse :: group.branches).reverse
      .ok { state with
        tokens := .alternatives branches :: group.outer, groups := groups, previous := some c }
  else if c = ',' then
    match state.groups with
    | [] => .ok (state.push (.literal c) c)
    | group :: groups =>
      .ok { state with
        tokens := []
        groups := { group with branches := state.tokens.reverse :: group.branches } :: groups
        previous := some c }
  else if c = '\\' then .ok { state with mode := .escape, previous := some c }
  else .ok (state.push (.literal c) c)

/-- A double star that fills no component: two stars. -/
def pushStars (state : ParseState) : ParseState := (state.push .run '*').push .run '*'

/-- A deep star takes the place of the separator before it; next to another deep star
it adds nothing, but for one at the end of a pattern. -/
def pushDeep (state : ParseState) (token : Token) (last : Char) : ParseState :=
  match state.tokens with
  | [] => state.push token last
  | .deepStart :: rest => { state with tokens := .deepStart :: rest, previous := some last }
  | .deepEnd :: rest => { state with tokens := .deepEnd :: rest, previous := some last }
  | _ :: rest => { state with tokens := token :: rest, previous := some last }

/-- Whether a double star may be deep behind the tokens before it: after a separator,
or where a branch of a group starts. -/
def deepAllowed (state : ParseState) : Bool :=
  state.previous == some '/' ||
    (!state.groups.isEmpty && (state.previous == some ',' || state.previous == some '{'))

/-- Reads the pattern from a state on. -/
def run (state : ParseState) : List Char → Except Problem (List Token)
  | [] =>
    match state.mode with
    | .inClass _ => .error .unclosedClass
    | .escape => .error .danglingEscape
    | .plain => if state.groups.isEmpty then .ok state.tokens.reverse else .error .unclosedGroup
  | c :: rest =>
    match state.mode with
    | .inClass soFar => do (← state.readInClass soFar c).run rest
    | .escape => (state.push (.literal c) c).run rest
    | .plain =>
      if c = '*' then
        match rest with
        | [] => (state.push .run c).run []
        | d :: rest =>
          if d = '*' then
            match rest with
            | [] =>
              if state.tokens.isEmpty then (state.push .deepStart d).run []
              else if state.deepAllowed then (state.pushDeep .deepEnd d).run []
              else state.pushStars.run []
            | e :: rest =>
              if state.tokens.isEmpty then
                if e = '/' then (state.push .deepStart e).run rest
                else state.pushStars.run (e :: rest)
              else if !state.deepAllowed then state.pushStars.run (e :: rest)
              else if (e = ',' ∨ e = '}') ∧ !state.groups.isEmpty then
                (state.pushDeep .deepEnd d).run (e :: rest)
              else if e = '/' then (state.pushDeep .deepMiddle e).run rest
              else state.pushStars.run (e :: rest)
          else (state.push .run c).run (d :: rest)
      else do (← state.readPlain c).run rest

end ParseState

/-- Reads a pattern. -/
def parse (pattern : String) : Except Error Pattern :=
  match ParseState.run ⟨[], [], .plain, none⟩ pattern.toList with
  | .ok tokens => .ok tokens
  | .error problem => .error ⟨pattern, problem⟩

end Conventions.Glob
