import Conventions.Binary64.Basic

/-!
# Decimal texts of doubles

The digits written for a double are the fewest that read back as it, and among
those the nearest to it. How the digits are laid out is a separate choice, made
once for each kind of output by a `Layout`.
-/

namespace Conventions.Binary64

/-- A positive decimal number `0.d₁d₂… * 10 ^ point`, with its digits as one
number of `count` digits. -/
structure Digits where
  digits : Nat
  count : Nat
  point : Int
  deriving DecidableEq, Repr

/-- Whether `10 ^ k ≤ value`. -/
def reaches (value : Rat) (k : Int) : Bool :=
  if 0 ≤ k then decide (((Nat.pow 10 k.toNat : Nat) : Rat) ≤ value)
  else decide (1 ≤ value * ((Nat.pow 10 (-k).toNat : Nat) : Rat))

/-- The least number from `k` on, trying `fuel` of them, with `value < 10 ^ k`. -/
def decimalPoint (value : Rat) (k : Int) : Nat → Int
  | 0 => k
  | fuel + 1 => if reaches value k then decimalPoint value (k + 1) fuel else k

/-- The numbers that round to the double: half a gap to either side. The ends
belong to them when the mantissa is even. -/
structure Interval where
  lower : Rat
  upper : Rat
  closed : Bool

/-- Whether a number lies in the interval. -/
def Interval.contains (interval : Interval) (x : Rat) : Bool :=
  if interval.closed then decide (interval.lower ≤ x) && decide (x ≤ interval.upper)
  else decide (interval.lower < x) && decide (x < interval.upper)

/-- The numbers that round to `mantissa * 2 ^ exponent`. Below a power of two the
gap is half as wide. -/
def roundingInterval (mantissa : Nat) (exponent : Int) : Interval :=
  let half := magnitude 1 (exponent - 1)
  let below := if mantissa = 1 <<< 52 ∧ minExponent < exponent then half / 2 else half
  let exact := magnitude mantissa exponent
  ⟨exact - below, exact + half, mantissa % 2 = 0⟩

/-- The power of ten as a rational number. -/
def powerOfTen (k : Int) : Rat :=
  if 0 ≤ k then ((Nat.pow 10 k.toNat : Nat) : Rat) else mkRat 1 (Nat.pow 10 (-k).toNat)

/-- The nearest decimal of the interval on the grid of `10 ^ unit`, if one lies there. -/
def onGrid? (interval : Interval) (exact : Rat) (unit : Int) : Option Nat :=
  let step := powerOfTen unit
  let low := (exact / step).floor.toNat
  let below := (low : Rat) * step
  let above := ((low + 1 : Nat) : Rat) * step
  match interval.contains below && low != 0, interval.contains above with
  | true, false => some low
  | false, true => some (low + 1)
  | true, true =>
    if exact - below < above - exact then some low
    else if above - exact < exact - below then some (low + 1)
    else some (if low % 2 = 0 then low else low + 1)
  | false, false => none

/-- The digits on the coarsest grid that has a decimal of the interval, trying
`fuel` grids with `count` digits and more. -/
def shortestFrom (interval : Interval) (exact : Rat) (point : Int) (count : Nat) : Nat → Digits
  | 0 => ⟨(exact / powerOfTen (point - count)).floor.toNat, count, point⟩
  | fuel + 1 =>
    match onGrid? interval exact (point - count) with
    | some digits =>
      if digits = Nat.pow 10 count then ⟨1, 1, point + 1⟩ else ⟨digits, count, point⟩
    | none => shortestFrom interval exact point (count + 1) fuel

/-- The shortest digits of the positive double `mantissa * 2 ^ exponent`. -/
def shortest (mantissa : Nat) (exponent : Int) : Digits :=
  let exact := magnitude mantissa exponent
  let guess := ((mantissa.log2 : Int) + exponent) * 30103 / 100000 - 1
  let point := decimalPoint exact guess 4
  shortestFrom (roundingInterval mantissa exponent) exact point 1 17

/-- How a number is laid out. -/
structure Layout where
  /-- The least and the greatest power of ten of the first digit for which the
  number is written without an exponent; without bounds if absent. -/
  positional : Option (Int × Int)
  /-- Whether a whole number keeps `.0`. -/
  keepsPointZero : Bool
  /-- Whether a positive exponent has a sign. -/
  signsExponent : Bool

/-- The characters of a number in ten's system. -/
def decimalChars (n : Nat) : List Char := Nat.toDigits 10 n

/-- The digits with the decimal point in its place. -/
def positionalText (layout : Layout) (d : Digits) : List Char :=
  let digits := decimalChars d.digits
  if d.point ≤ 0 then
    '0' :: '.' :: (List.replicate (-d.point).toNat '0' ++ digits)
  else
    let whole := d.point.toNat
    if d.count ≤ whole then
      digits ++ List.replicate (whole - d.count) '0' ++
        (if layout.keepsPointZero then ['.', '0'] else [])
    else digits.take whole ++ '.' :: digits.drop whole

/-- The digits with one before the point, and an exponent. -/
def scientificText (layout : Layout) (d : Digits) : List Char :=
  let exponent := d.point - 1
  let fraction := (decimalChars d.digits).drop 1
  (decimalChars d.digits).take 1 ++ (if fraction.isEmpty then [] else '.' :: fraction) ++
    'e' ::
      (if exponent < 0 then '-' :: decimalChars exponent.natAbs
      else if layout.signsExponent then '+' :: decimalChars exponent.natAbs
      else decimalChars exponent.natAbs)

/-- The text of the magnitude of a finite double. -/
def magnitudeText (layout : Layout) (mantissa : Nat) (exponent : Int) : List Char :=
  if mantissa = 0 then (if layout.keepsPointZero then ['0', '.', '0'] else ['0'])
  else
    let d := shortest mantissa exponent
    match layout.positional with
    | none => positionalText layout d
    | some (least, greatest) =>
      if least ≤ d.point - 1 ∧ d.point - 1 ≤ greatest then positionalText layout d
      else scientificText layout d

/-- The text of a finite double; the others are named in words. -/
def text (layout : Layout) : Binary64 → String
  | finite negative mantissa exponent =>
    String.ofList
      ((if negative then ['-'] else []) ++ magnitudeText layout mantissa exponent)
  | infinite negative => if negative then "-inf" else "inf"
  | nan => "NaN"

/-- Percentages in messages: never an exponent, and whole numbers without a point. -/
def messageLayout : Layout := ⟨none, false, false⟩

/-- The text of a percentage in a message. -/
def messageText (value : Binary64) : String := text messageLayout value

/-- The double nearest to `digits * 10 ^ power`. A power so large or small that the
result is infinite or zero whatever the digits is not expanded. -/
def ofDecimal (negative : Bool) (digits : Nat) (power : Int) : Binary64 :=
  let size : Int := power + (decimalChars digits).length
  if digits = 0 then finite negative 0 minExponent
  else if 400 < size then infinite negative
  else if size < -400 then finite negative 0 minExponent
  else if 0 ≤ power then ofRatio negative (digits * Nat.pow 10 power.toNat) 1
  else ofRatio negative digits (Nat.pow 10 (-power).toNat)

end Conventions.Binary64
