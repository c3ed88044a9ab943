import Conventions.Regex.Basic
import Conventions.Text.Script

/-!
# Named character properties

The sets of characters that an expression may name: general categories, scripts and
some properties with two values. Names are compared without regard to case, spaces,
hyphens, underscores and a leading `is`.
-/

namespace Conventions.Regex

open Text in
/-- The general categories with their names. -/
def categories : List (List String × List Ranges) :=
  [(["l", "letter"], [lowerLetters, upperLetters, otherLetters, titleLetters, modifierLetters]),
   (["lc", "casedletter"], [lowerLetters, upperLetters, titleLetters]),
   (["lu", "uppercaseletter"], [upperLetters]),
   (["ll", "lowercaseletter"], [lowerLetters]),
   (["lt", "titlecaseletter"], [titleLetters]),
   (["lm", "modifierletter"], [modifierLetters]),
   (["lo", "otherletter"], [otherLetters]),
   (["m", "mark", "combiningmark"], [nonspacingMarks, spacingMarks, enclosingMarks]),
   (["mn", "nonspacingmark"], [nonspacingMarks]),
   (["mc", "spacingmark"], [spacingMarks]),
   (["me", "enclosingmark"], [enclosingMarks]),
   (["n", "number"], [decimalDigits, letterNumbers, otherNumbers]),
   (["nd", "decimalnumber", "digit"], [decimalDigits]),
   (["nl", "letternumber"], [letterNumbers]),
   (["no", "othernumber"], [otherNumbers]),
   (["p", "punctuation", "punct"],
     [connectors, dashes, openings, closings, initialQuotes, finalQuotes, otherPunctuation]),
   (["pc", "connectorpunctuation"], [connectors]),
   (["pd", "dashpunctuation"], [dashes]),
   (["ps", "openpunctuation"], [openings]),
   (["pe", "closepunctuation"], [closings]),
   (["pi", "initialpunctuation"], [initialQuotes]),
   (["pf", "finalpunctuation"], [finalQuotes]),
   (["po", "otherpunctuation"], [otherPunctuation]),
   (["s", "symbol"], [mathSymbols, currencySymbols, modifierSymbols, otherSymbols]),
   (["sm", "mathsymbol"], [mathSymbols]),
   (["sc", "currencysymbol"], [currencySymbols]),
   (["sk", "modifiersymbol"], [modifierSymbols]),
   (["so", "othersymbol"], [otherSymbols]),
   (["z", "separator"], [spaces, lineSeparators, paragraphSeparators]),
   (["zs", "spaceseparator"], [spaces]),
   (["zl", "lineseparator"], [lineSeparators]),
   (["zp", "paragraphseparator"], [paragraphSeparators]),
   (["cc", "control", "cntrl"], [controls]),
   (["cf", "format"], [formats]),
   (["co", "privateuse"], [privateUse])]

/-- The union of tables. -/
def tables (ranges : List Text.Ranges) : CharSet := .unions (ranges.map .table)

/-- All characters. -/
def everything : CharSet := .complement .empty

open Text in
/-- The characters that have been assigned. -/
def assigned : CharSet :=
  tables [lowerLetters, upperLetters, titleLetters, modifierLetters, otherLetters,
    nonspacingMarks, spacingMarks, enclosingMarks, decimalDigits, letterNumbers, otherNumbers,
    connectors, dashes, openings, closings, initialQuotes, finalQuotes, otherPunctuation,
    mathSymbols, currencySymbols, modifierSymbols, otherSymbols, spaces, lineSeparators,
    paragraphSeparators, controls, formats, privateUse]

/-- The general category with a name. -/
def category? (name : String) : Option CharSet :=
  if name = "any" then some everything
  else if name = "assigned" then some assigned
  else if name = "ascii" then some (.range (Char.ofNat 0) (Char.ofNat 127))
  else if name = "cn" ∨ name = "unassigned" then some (.complement assigned)
  else if name = "c" ∨ name = "other" then
    some (.union (.complement assigned)
      (tables [Text.controls, Text.formats, Text.privateUse]))
  else (categories.find? fun entry => entry.1.contains name).map fun entry => tables entry.2

/-- The script with a name. -/
def script? (name : String) : Option CharSet :=
  (Text.scripts.find? fun entry => entry.1.contains name).map fun entry => .table entry.2

open Text in
/-- The property of two values with a name. -/
def binary? (name : String) : Option CharSet :=
  if name = "alphabetic" ∨ name = "alpha" then
    some (tables [lowerLetters, upperLetters, otherLetters, titleLetters, modifierLetters,
      letterNumbers, otherAlphabetic])
  else if name = "lowercase" ∨ name = "lower" then some (tables [lowerLetters, otherLowercase])
  else if name = "uppercase" ∨ name = "upper" then some (tables [upperLetters, otherUppercase])
  else if name = "whitespace" ∨ name = "wspace" ∨ name = "space" then some .blanks
  else if name = "emoji" then some (.table emoji)
  else if name = "asciihexdigit" ∨ name = "ahex" then
    some (.unions [.range '0' '9', .range 'a' 'f', .range 'A' 'F'])
  else if name = "joincontrol" ∨ name = "joinc" then
    some (.range (Char.ofNat 0x200C) (Char.ofNat 0x200D))
  else none

/-- A name without regard to its spelling. -/
def plainName (name : String) : String :=
  let kept := name.toList.filter fun c => c != ' ' && c != '_' && c != '-'
  match kept.map Char.toLower with
  | 'i' :: 's' :: rest => String.ofList (if rest = ['c'] then ['i', 's', 'c'] else rest)
  | chars => String.ofList chars

/-- The set that a name stands for. -/
def named? (name : String) : Option CharSet :=
  let plain := plainName name
  let known := if plain = "cf" ∨ plain = "sc" ∨ plain = "lc" then none else binary? plain
  (known.or (category? plain)).or (script? plain)

/-- The set of the characters for which a property has a value. -/
def valued? (property value : String) : Option CharSet :=
  let plain := plainName property
  if plain = "gc" ∨ plain = "generalcategory" then category? (plainName value)
  else if plain = "sc" ∨ plain = "script" ∨ plain = "scx" ∨ plain = "scriptextensions" then
    script? (plainName value)
  else none

end Conventions.Regex
