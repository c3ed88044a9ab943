import Conventions.Json.Printer
import Conventions.Binary64.Basic

/-!
# Similarity

Texts are compared by their edit distance, values by their compact texts. A score
is a percentage in hundredths. The arithmetic is that of rational numbers with a
rounding after each operation, so that the same definitions describe the scores
that are printed, rounded to doubles, and the exact ones, without any rounding.
-/

namespace Conventions.Similarity

/-- The rest of a row of the distance table: `left` is the last entry of this row,
`diagonal` the entry of the row above it, and the list holds the following ones. -/
def rowAfter (c : Char) (left diagonal : Nat) : List Char → List Nat → List Nat
  | d :: other, above :: row =>
    let cost := if c = d then 0 else 1
    let entry := min (min (diagonal + cost) (above + 1)) (left + 1)
    entry :: rowAfter c entry above other row
  | _, _ => []

/-- The next row of the distance table, for one more character of the first text. -/
def nextRow (other : List Char) (row : List Nat) (c : Char) : List Nat :=
  match row with
  | [] => []
  | first :: rest => (first + 1) :: rowAfter c (first + 1) first other rest

/-- The least number of insertions, deletions and substitutions of single characters
that turn one text into the other. -/
def distance (a b : List Char) : Nat :=
  (a.foldl (nextRow b) (List.range (b.length + 1))).getLastD 0

/-- The edit distance of two strings. -/
def levenshtein (a b : String) : Nat := distance a.toList b.toList

/-- A rounding of rational numbers. -/
abbrev Rounding := Rat → Rat

/-- The rounding of doubles. -/
def doubles : Rounding := Binary64.nearest

/-- No rounding at all. -/
def exact : Rounding := id

/-- The nearest number of hundredths to a number that is not negative. -/
def hundredths (round : Rounding) (value : Rat) : Rat :=
  round ((((round (value * 100) + mkRat 1 2).floor : Int) : Rat) / 100)

/-- The share of `length` that `distance` leaves, as a percentage. -/
def share (round : Rounding) (length distance : Nat) : Rat :=
  round (round (((length : Int) - (distance : Int) : Int) / (length : Rat)) * 100)

/-- How much of a reference survives in another text, relative to the length of the
reference. -/
def ofTexts (round : Rounding) (reference other : String) : Rat :=
  if reference.length = 0 then (if other.length = 0 then 100 else 0)
  else
    let left := share round reference.length (levenshtein reference other)
    hundredths round (if left < 0 then 0 else left)

/-- How similar two texts are, relative to the longer one. -/
def ofStrings (round : Rounding) (a b : String) : Rat :=
  let longer := max a.length b.length
  if longer = 0 then 100 else hundredths round (share round longer (levenshtein a b))

/-- Null and the empty text, list and object. -/
def isEmptyValue : Json → Bool
  | .null => true
  | .string value => value.isEmpty
  | .array items => items.isEmpty
  | .object fields => fields.isEmpty
  | _ => false

/-- A value, unless it is absent or empty. -/
def present (value : Option Json) : Option Json := value.filter (!isEmptyValue ·)

/-- How similar two values are as a whole. An empty value is like an absent one. -/
def ofWholes (round : Rounding) (a b : Option Json) : Rat :=
  match present a, present b with
  | none, none => 100
  | some a, some b => ofStrings round a.compact b.compact
  | _, _ => 0

/-- The key of the score that stands for all. -/
def all : String := "_all"

/-- Scores by key, in ascending order of the keys. -/
abbrev Scores := Entries Rat

/-- The mean of scores. -/
def mean (round : Rounding) (scores : List Rat) : Rat :=
  round (scores.foldl (fun sum score => round (sum + score)) 0 / (scores.length : Rat))

/-- The scores of the keys that two objects share. -/
def sharedScores (round : Rounding) (a b : Entries Json) : Scores :=
  Entries.sorted (a.filterMap fun (key, value) =>
    (Entries.find? key b).map fun other => (key, ofWholes round (some value) (some other)))

/-- The score of two values as a whole. -/
def wholeScores (round : Rounding) (a b : Option Json) : Scores := [(all, ofWholes round a b)]

/-- Compares two values. With `matching`, two objects that share a key are scored by
their shared keys, and the score of all is the mean of those. -/
def ofValues (round : Rounding) (a b : Option Json) (matching : Bool) : Scores :=
  match matching, a, b with
  | true, some (.object fields), some (.object otherFields) =>
    let scores := sharedScores round fields otherFields
    if scores.isEmpty then wholeScores round a b
    else Entries.insertSorted all (hundredths round (mean round (scores.map (·.2)))) scores
  | _, _, _ => wholeScores round a b

end Conventions.Similarity
