/-!
# Doubles

The numbers of the binary64 format as exact values: a finite one is a sign and
`mantissa * 2 ^ exponent`. Every operation takes the exact result and rounds it
once to the nearest double, a tie to the even mantissa.
-/

namespace Conventions

/-- A double. A finite one has its mantissa below `2 ^ 53`, at least `2 ^ 52`
unless the exponent is the least one, `-1074`. -/
inductive Binary64 where
  | finite (negative : Bool) (mantissa : Nat) (exponent : Int)
  | infinite (negative : Bool)
  | nan
  deriving DecidableEq, Repr, Inhabited

namespace Binary64

/-- The quotient rounded to a whole number, a tie to the even one. -/
def divideToEven (numerator denominator : Nat) : Nat :=
  let quotient := numerator / denominator
  let twice := 2 * (numerator % denominator)
  if twice < denominator then quotient
  else if denominator < twice then quotient + 1
  else if quotient % 2 = 0 then quotient else quotient + 1

/-- The quotient rounded to a multiple of `2 ^ exponent`, counted in such multiples. -/
def scaled (numerator denominator : Nat) (exponent : Int) : Nat :=
  if 0 ≤ exponent then divideToEven numerator (denominator <<< exponent.toNat)
  else divideToEven (numerator <<< (-exponent).toNat) denominator

/-- The least exponent of a double. -/
def minExponent : Int := -1074

/-- The greatest exponent of a double. -/
def maxExponent : Int := 971

/-- The exponent with which the positive quotient has a 53-bit mantissa, or the
least exponent if that is greater. -/
def exponentOf (numerator denominator : Nat) : Int :=
  let estimate : Int := (numerator.log2 : Int) - (denominator.log2 : Int) - 52
  let exact :=
    if 0 ≤ estimate then
      if denominator <<< (estimate.toNat + 52) ≤ numerator then estimate else estimate - 1
    else
      if denominator <<< 52 ≤ numerator <<< (-estimate).toNat then estimate else estimate - 1
  max exact minExponent

/-- The double nearest to `numerator / denominator`, with the given sign. -/
def ofRatio (negative : Bool) (numerator denominator : Nat) : Binary64 :=
  if numerator = 0 then finite negative 0 minExponent
  else
    let exponent := exponentOf numerator denominator
    let mantissa := scaled numerator denominator exponent
    let carried := mantissa = 1 <<< 53
    let exponent := if carried then exponent + 1 else exponent
    let mantissa := if carried then 1 <<< 52 else mantissa
    if maxExponent < exponent then infinite negative
    else finite negative mantissa exponent

/-- The double nearest to a rational number. -/
def ofRat (value : Rat) : Binary64 :=
  ofRatio (decide (value < 0)) value.num.natAbs value.den

/-- The double nearest to a whole number. -/
def ofInt (value : Int) : Binary64 :=
  ofRatio (decide (value < 0)) value.natAbs 1

/-- The exact value of `mantissa * 2 ^ exponent`. -/
def magnitude (mantissa : Nat) (exponent : Int) : Rat :=
  if 0 ≤ exponent then ((mantissa <<< exponent.toNat : Nat) : Rat)
  else mkRat mantissa (1 <<< (-exponent).toNat)

/-- The exact value of a finite double; zero stands for the others. -/
def toRat : Binary64 → Rat
  | finite negative mantissa exponent =>
    if negative then -(magnitude mantissa exponent) else magnitude mantissa exponent
  | infinite _ | nan => 0

/-- Whether the double is neither infinite nor undefined. -/
def isFinite : Binary64 → Bool
  | finite .. => true
  | _ => false

/-- Whether a finite double is zero, of either sign. -/
def isZero : Binary64 → Bool
  | finite _ mantissa _ => mantissa == 0
  | _ => false

/-- Whether the sign bit is set. -/
def isNegative : Binary64 → Bool
  | finite negative .. | infinite negative => negative
  | nan => false

/-- The rounded product. -/
def mul : Binary64 → Binary64 → Binary64
  | finite s m e, finite s' m' e' =>
    let product := magnitude m e * magnitude m' e'
    ofRatio (s != s') product.num.natAbs product.den
  | infinite s, finite s' m _ | finite s m _, infinite s' =>
    if m = 0 then nan else infinite (s != s')
  | infinite s, infinite s' => infinite (s != s')
  | nan, _ | _, nan => nan

/-- The rounded quotient. -/
def div : Binary64 → Binary64 → Binary64
  | finite s m e, finite s' m' e' =>
    if m' = 0 then (if m = 0 then nan else infinite (s != s'))
    else
      let quotient := magnitude m e / magnitude m' e'
      ofRatio (s != s') quotient.num.natAbs quotient.den
  | infinite s, finite s' _ _ => infinite (s != s')
  | finite s _ _, infinite s' => finite (s != s') 0 minExponent
  | infinite _, infinite _ | nan, _ | _, nan => nan

/-- The nearest whole number, a half going away from zero. -/
def roundToWhole : Binary64 → Binary64
  | finite negative mantissa exponent =>
    let exact := magnitude mantissa exponent
    ofRatio negative ((exact + mkRat 1 2).floor).natAbs 1
  | other => other

/-- The nearest multiple of one hundredth, computed in doubles throughout. -/
def roundToHundredths (value : Binary64) : Binary64 :=
  ((value.mul (ofInt 100)).roundToWhole).div (ofInt 100)

/-- The exact value of the double nearest to a rational number. -/
def nearest (value : Rat) : Rat := (ofRat value).toRat

end Binary64

end Conventions
