import Conventions.Json.Basic

/-!
# Reading JSON numbers

A number is read into at most sixty-four bits of digits and a power of ten, and
the double is their product or quotient, each rounded on its own. Digits beyond
the sixty-four bits only count for the power. The result may therefore differ
from the nearest double in its last place.
-/

namespace Conventions.Json

/-- The parts of a number that is written correctly. -/
structure Numeral where
  negative : Bool
  whole : List Char
  fraction : List Char
  /-- The sign and the digits of the exponent, if there is one. -/
  exponent : Option (Bool × List Char)
  deriving DecidableEq, Repr

/-- Whether a character is one of the ten digits. -/
def isDigit (c : Char) : Bool := '0' ≤ c && c ≤ '9'

/-- The value of a digit. -/
def digitValue (c : Char) : Nat := c.toNat - '0'.toNat

/-- Takes digits up as long as the number stays below `bound`; the rest is left. -/
def absorb (bound value : Nat) : List Char → Nat × List Char
  | [] => (value, [])
  | c :: rest =>
    let next := 10 * value + digitValue c
    if next < bound then absorb bound next rest else (value, c :: rest)

/-- The double `digits * 10 ^ power`, with the digits and the power of ten rounded
to doubles first; absent if it is too large. A power below `-308` is taken in
steps, `fuel` at most, after which nothing but zero is left. -/
def scaledDouble? (value : Binary64) (power : Int) : Nat → Option Binary64
  | 0 => some (.finite value.isNegative 0 Binary64.minExponent)
  | fuel + 1 =>
    if power.natAbs ≤ 308 then
      let factor := Binary64.ofRatio false (Nat.pow 10 power.natAbs) 1
      if 0 ≤ power then
        let product := value.mul factor
        if product.isFinite then some product else none
      else some (value.div factor)
    else if value.isZero then some value
    else if 0 ≤ power then none
    else scaledDouble? (value.div (Binary64.ofRatio false (Nat.pow 10 308) 1)) (power + 308) fuel

/-- The bound of the digits of a number. -/
def digitBound : Nat := UInt64.size

/-- The bound of the digits of an exponent. -/
def exponentBound : Nat := 1 <<< 31

/-- The double of given digits and power, with a sign; absent if it is too large. -/
def signedDouble? (negative : Bool) (digits : Nat) (power : Int) : Option JsonNumber :=
  (scaledDouble? (Binary64.ofRatio negative digits 1) power 4).map .double

/-- A power of ten as far as it matters: beyond the range of 32 bits it is clipped. -/
def clipPower (power : Int) : Int :=
  if power < -exponentBound then -exponentBound
  else if power < exponentBound then power
  else exponentBound - 1

/-- The value of a numeral. If it is too large, the number of digits of the exponent
that were read when this came out. -/
def Numeral.value (numeral : Numeral) : Except Nat JsonNumber :=
  let (digits, wholeRest) := absorb digitBound 0 numeral.whole
  let (digits', fractionRest) := absorb digitBound digits numeral.fraction
  let power : Int :=
    (wholeRest.length : Int) - ((numeral.fraction.length - fractionRest.length : Nat) : Int)
  let all := match numeral.exponent with
    | some (_, ds) => ds.length
    | none => 0
  match numeral.exponent with
  | none =>
    if numeral.fraction.isEmpty && wholeRest.isEmpty then
      if !numeral.negative then .ok (.whole digits)
      else if digits = 0 || 1 <<< 63 < digits then
        .ok (.double (Binary64.ofRatio true digits 1))
      else .ok (.whole (-(digits : Int)))
    else match signedDouble? numeral.negative digits' power with
      | some value => .ok value
      | none => .error all
  | some (isNegative, exponentDigits) =>
    let (exponent, exponentRest) := absorb exponentBound 0 exponentDigits
    if !exponentRest.isEmpty then
      if digits' != 0 && !isNegative then .error (exponentDigits.length - exponentRest.length + 1)
      else .ok (.double (.finite numeral.negative 0 Binary64.minExponent))
    else
      let total := clipPower (if isNegative then power - exponent else power + exponent)
      match signedDouble? numeral.negative digits' total with
      | some value => .ok value
      | none => .error all

end Conventions.Json
