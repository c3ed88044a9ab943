import Conventions.Text.Blank
import Conventions.Text.CaseFolding
import Conventions.Text.Category

/-!
# Regular expressions

An expression is described by where it can end when it starts at a given position
of a text. A position knows the character before it and the rest of the text, so
assertions about the surroundings are tests of a position. Only whether there is
a match is of interest here, not which one.
-/

namespace Conventions

/-- A set of characters. -/
inductive CharSet where
  | empty
  | range (low high : Char)
  | table (ranges : Text.Ranges)
  | blanks
  | union (a b : CharSet)
  | both (a b : CharSet)
  | without (a b : CharSet)
  | complement (a : CharSet)
  /-- The characters that differ at most in case from one of a set. -/
  | anyCase (a : CharSet)
  deriving Repr, Inhabited

namespace CharSet

/-- Whether a character is in the set. -/
def contains : CharSet → Char → Bool
  | empty, _ => false
  | range low high, c => decide (low ≤ c) && decide (c ≤ high)
  | table ranges, c => ranges.contains c.toNat
  | blanks, c => Text.isBlank c
  | union a b, c => a.contains c || b.contains c
  | both a b, c => a.contains c && b.contains c
  | without a b, c => a.contains c && !b.contains c
  | complement a, c => !a.contains c
  | anyCase a, c => (Text.caseVariants c).any a.contains

/-- The set of one character. -/
def single (c : Char) : CharSet := range c c

/-- The union of sets. -/
def unions (sets : List CharSet) : CharSet := sets.foldr union empty

/-- The letters, marks, digits and connectors of which words consist. -/
def wordChars : CharSet :=
  unions [table Text.lowerLetters, table Text.upperLetters, table Text.decimalDigits,
    table Text.connectors, table Text.otherLetters, table Text.titleLetters,
    table Text.modifierLetters, table Text.letterNumbers, table Text.nonspacingMarks,
    table Text.spacingMarks, table Text.enclosingMarks, table Text.otherAlphabetic,
    range (Char.ofNat 0x200C) (Char.ofNat 0x200D)]

/-- The letters, digits and the underscore of ASCII. -/
def asciiWordChars : CharSet := unions [range 'a' 'z', range 'A' 'Z', range '0' '9', single '_']

end CharSet

/-- A test of a position. -/
inductive Assertion where
  | textStart
  | textEnd
  /-- Behind a line end or at the start. -/
  | lineStart (crlf : Bool)
  /-- Before a line end or at the end. -/
  | lineEnd (crlf : Bool)
  | wordBoundary (word : CharSet)
  | noWordBoundary (word : CharSet)
  | wordStart (word : CharSet)
  | wordEnd (word : CharSet)
  /-- No word character before the position. -/
  | wordStartHalf (word : CharSet)
  /-- No word character behind the position. -/
  | wordEndHalf (word : CharSet)
  deriving Repr, Inhabited

/-- A regular expression. -/
inductive Regex where
  | empty
  | one (set : CharSet)
  | look (assertion : Assertion)
  | cat (a b : Regex)
  | alt (a b : Regex)
  /-- At least and, if there is a bound, at most so many times. -/
  | times (body : Regex) (least : Nat) (most : Option Nat)
  deriving Repr, Inhabited

namespace Regex

/-- A position in a text. -/
structure Position where
  before : Option Char
  rest : List Char
  deriving DecidableEq, Repr

/-- Whether a character, if there is one, is in a set. -/
def isIn (set : CharSet) (c : Option Char) : Bool :=
  match c with
  | some c => set.contains c
  | none => false

/-- Whether an assertion holds at a position. -/
def holds (assertion : Assertion) (p : Position) : Bool :=
  let next := p.rest.head?
  match assertion with
  | .textStart => p.before.isNone
  | .textEnd => p.rest.isEmpty
  | .lineStart false => p.before.isNone || p.before == some '\n'
  | .lineStart true =>
    p.before.isNone || p.before == some '\n' || (p.before == some '\r' && next != some '\n')
  | .lineEnd false => p.rest.isEmpty || next == some '\n'
  | .lineEnd true =>
    p.rest.isEmpty || next == some '\r' || (next == some '\n' && p.before != some '\r')
  | .wordBoundary word => isIn word p.before != isIn word next
  | .noWordBoundary word => isIn word p.before == isIn word next
  | .wordStart word => !isIn word p.before && isIn word next
  | .wordEnd word => isIn word p.before && !isIn word next
  | .wordStartHalf word => !isIn word p.before
  | .wordEndHalf word => !isIn word next

/-- Whether two positions of the same text are the same. -/
def Position.same (a b : Position) : Bool := a.rest.length == b.rest.length

/-- The positions of a list that are not among those already known. -/
def fresh (known : List Position) : List Position → List Position
  | [] => []
  | p :: more =>
    if known.any p.same then fresh known more else p :: fresh (p :: known) more

/-- The positions after exactly `count` steps. -/
def exactly (step : Position → List Position) : Nat → List Position → List Position
  | 0, places => places
  | count + 1, places =>
    if places.isEmpty then [] else exactly step count (fresh [] (places.flatMap step))

/-- The positions after at most `count` steps; `frontier` are those that were reached
last. -/
def atMost (step : Position → List Position) :
    Nat → List Position → List Position → List Position
  | 0, known, _ => known
  | count + 1, known, frontier =>
    if frontier.isEmpty then known
    else
      let next := fresh known (frontier.flatMap step)
      atMost step count (known ++ next) next

/-- The positions at which an expression can end that starts at a position. No
sequence of steps reaches more new positions than the text has characters. -/
def ends : Regex → Position → List Position
  | empty, p => [p]
  | one set, p =>
    match p.rest with
    | [] => []
    | c :: rest => if set.contains c then [⟨some c, rest⟩] else []
  | look assertion, p => if holds assertion p then [p] else []
  | cat a b, p => fresh [] ((a.ends p).flatMap b.ends)
  | alt a b, p => fresh [] (a.ends p ++ b.ends p)
  | times body least most, p =>
    let start := exactly body.ends least [p]
    let steps := match most with
      | none => p.rest.length + 1
      | some most => min (most - least) (p.rest.length + 1)
    atMost body.ends steps start start

/-- Whether the expression matches somewhere from a position on. -/
def matchesFrom (regex : Regex) (before : Option Char) : List Char → Bool
  | [] => !(regex.ends ⟨before, []⟩).isEmpty
  | c :: rest => !(regex.ends ⟨before, c :: rest⟩).isEmpty || regex.matchesFrom (some c) rest

/-- Whether the expression matches some part of a text. -/
def isMatch (regex : Regex) (text : String) : Bool := regex.matchesFrom none text.toList

/-- The expression that matches one character. -/
def char (c : Char) : Regex := one (.single c)

/-- The expressions of a list one after the other. -/
def sequence : List Regex → Regex
  | [] => empty
  | [only] => only
  | first :: rest => cat first (sequence rest)

/-- Any number of characters but line ends. -/
def anyRun : Regex := times (one (.complement (.single '\n'))) 0 none

/-- An estimate of the bytes that a set takes when it is compiled. -/
def setCost : CharSet → Nat
  | .empty => 0
  | .range _ high => if high.toNat < 128 then 8 else 100
  | .table ranges => 16 * ranges.length
  | .blanks => 100
  | .union a b => setCost a + setCost b
  | .both a _ | .without a _ | .anyCase a => setCost a
  | .complement a => setCost a + 400

/-- An estimate of the bytes that an expression takes when it is compiled. -/
def cost : Regex → Nat
  | empty | look _ => 32
  | one set => 32 + setCost set
  | cat a b => a.cost + b.cost
  | alt a b => a.cost + b.cost + 80
  | times body least most =>
    match most with
    | none => max 1 least * body.cost + 40
    | some most => max least most * body.cost + (most - least) * 40 + 32

end Regex

end Conventions
