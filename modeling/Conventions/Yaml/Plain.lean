import Conventions.Yaml.Basic

/-!
# Plain scalars

What a scalar without quotes stands for: a null, a switch, a number, or else the
text itself.
-/

namespace Conventions.Yaml.Plain

/-- Whether a text stands for null. -/
def isNull (text : String) : Bool :=
  text == "~" || text == "null" || text == "Null" || text == "NULL"

/-- The switch that a text stands for. -/
def switch? (text : String) : Option Bool :=
  if text = "true" ∨ text = "True" ∨ text = "TRUE" then some true
  else if text = "false" ∨ text = "False" ∨ text = "FALSE" then some false
  else none

/-- The value of a digit, up to that of the letter F in either case. -/
def digit? (c : Char) : Option Nat :=
  if '0' ≤ c ∧ c ≤ '9' then some (c.toNat - '0'.toNat)
  else if 'a' ≤ c ∧ c ≤ 'f' then some (c.toNat - 'a'.toNat + 10)
  else if 'A' ≤ c ∧ c ≤ 'F' then some (c.toNat - 'A'.toNat + 10)
  else none

/-- The number of digits that follow `value`. -/
def digitsFrom? (radix value : Nat) : List Char → Option Nat
  | [] => some value
  | c :: rest =>
    match digit? c with
    | some digit =>
      if digit < radix then digitsFrom? radix (radix * value + digit) rest else none
    | none => none

/-- The number that digits stand for; there has to be one. -/
def digits? (radix : Nat) (text : List Char) : Option Nat :=
  if text.isEmpty then none else digitsFrom? radix 0 text

/-- A decimal digit. -/
def isDecimal (c : Char) : Bool := '0' ≤ c && c ≤ '9'

/-- Whether a text is a zero followed by digits, with or without a sign. It is no
number then. -/
def hasLeadingZero (text : List Char) : Bool :=
  let body := match text with
    | '-' :: rest | '+' :: rest => rest
    | _ => text
  match body with
  | '0' :: c :: rest => (c :: rest).all isDecimal
  | _ => false

/-- The magnitude behind the mark of a radix, or of decimal digits. -/
def magnitude? (text : List Char) : Option Nat :=
  match text with
  | '0' :: 'x' :: rest => digits? 16 rest
  | '0' :: 'o' :: rest => digits? 8 rest
  | '0' :: 'b' :: rest => digits? 2 rest
  | _ => if hasLeadingZero text then none else digits? 10 text

/-- The whole number that a text stands for, of any size. -/
def whole? (text : List Char) : Option Int :=
  match text with
  | '-' :: rest => (magnitude? rest).map fun magnitude => -(magnitude : Int)
  | '+' :: rest => (magnitude? rest).map Int.ofNat
  | _ => (magnitude? text).map Int.ofNat

/-- Whether a whole number can be a value. -/
def fits (value : Int) : Bool :=
  decide (-(1 <<< 63 : Nat) ≤ value) && decide (value < (1 <<< 64 : Nat))

/-- Whether a whole number is read as one at all; a larger one is read as a double. -/
def isRead (value : Int) : Bool :=
  decide (-(1 <<< 127 : Nat) ≤ value) && decide (value < (1 <<< 128 : Nat))

/-- The parts of a decimal number: its digits, the power of ten, and what is left. -/
def exponent? (text : List Char) : Option Int :=
  match text with
  | [] => some 0
  | c :: rest =>
    if c = 'e' ∨ c = 'E' then
      match rest with
      | '-' :: digits => (digits? 10 digits).map fun value => -(value : Int)
      | '+' :: digits => (digits? 10 digits).map Int.ofNat
      | digits => (digits? 10 digits).map Int.ofNat
    else none

/-- The double that a text without a sign stands for. -/
def unsignedDouble? (negative : Bool) (text : List Char) : Option Binary64 := do
  let whole := text.takeWhile isDecimal
  let rest := text.dropWhile isDecimal
  let (fraction, rest) := match rest with
    | '.' :: rest => (rest.takeWhile isDecimal, rest.dropWhile isDecimal)
    | rest => ([], rest)
  let digits ← digits? 10 (whole ++ fraction)
  let power ← exponent? rest
  return Binary64.ofDecimal negative digits (power - fraction.length)

/-- The finite double that a text stands for. -/
def finiteDouble? (text : List Char) : Option Binary64 := do
  let value ← match text with
    | '-' :: rest => unsignedDouble? true rest
    | '+' :: rest => unsignedDouble? false rest
    | _ => unsignedDouble? false text
  if value.isFinite then some value else none

/-- The double that a text stands for. -/
def double? (text : String) : Option Binary64 :=
  if text ∈ [".inf", ".Inf", ".INF", "+.inf", "+.Inf", "+.INF"] then some (.infinite false)
  else if text ∈ ["-.inf", "-.Inf", "-.INF"] then some (.infinite true)
  else if text ∈ [".nan", ".NaN", ".NAN"] then some .nan
  else finiteDouble? text.toList

/-- The value that a plain scalar stands for; none for a whole number that is too
large. -/
def value? (text : String) : Option Yaml :=
  if text.isEmpty || isNull text then some .null
  else match switch? text with
    | some value => some (.bool value)
    | none =>
      match (whole? text.toList).filter isRead with
      | some value => if fits value then some (.number (.whole value)) else none
      | none =>
        match if hasLeadingZero text.toList then none else double? text with
        | some value => some (.number (.double value))
        | none => some (.string text)

end Conventions.Yaml.Plain
