import Conventions.Binary64.Decimal
import Conventions.Entries

/-!
# JSON values

A value keeps the order in which the keys of its objects were first written, and
keeps whole numbers apart from doubles.
-/

namespace Conventions

/-- A JSON number. Whole numbers are those between `-2 ^ 63` and `2 ^ 64 - 1`
written without a point or an exponent, except `-0`. -/
inductive JsonNumber where
  | whole (value : Int)
  | double (value : Binary64)
  deriving DecidableEq, Repr, Inhabited

/-- A JSON value. -/
inductive Json where
  | null
  | bool (value : Bool)
  | number (value : JsonNumber)
  | string (value : String)
  | array (items : List Json)
  | object (fields : List (String × Json))
  deriving Repr, Inhabited

namespace JsonNumber

/-- Numbers in JSON texts: no exponent for a first digit between `10 ^ -5` and
`10 ^ 15`, doubles always with a point or an exponent, exponents always signed. -/
def layout : Binary64.Layout := ⟨some (-5, 15), true, true⟩

/-- The text of a whole number. -/
def wholeText (value : Int) : String :=
  if value < 0 then String.ofList ('-' :: Binary64.decimalChars value.natAbs)
  else String.ofList (Binary64.decimalChars value.natAbs)

/-- The text of a number. Only finite doubles are numbers; the text of another is
that of null. -/
def text : JsonNumber → String
  | whole value => wholeText value
  | double value => if value.isFinite then Binary64.text layout value else "null"

/-- The number as a double. -/
def toBinary64 : JsonNumber → Binary64
  | whole value => Binary64.ofInt value
  | double value => value

end JsonNumber

namespace Json

/-- The text of a string value, if it is one. -/
def asString? : Json → Option String
  | string value => some value
  | _ => none

/-- The value of a boolean, if it is one. -/
def asBool? : Json → Option Bool
  | bool value => some value
  | _ => none

/-- The fields of an object, if it is one. -/
def asObject? : Json → Option (Entries Json)
  | object fields => some fields
  | _ => none

/-- The items of an array, if it is one. -/
def asArray? : Json → Option (List Json)
  | array items => some items
  | _ => none

/-- The value of a field, if the value is an object that has it. -/
def field? (name : String) : Json → Option Json
  | object fields => Entries.find? name fields
  | _ => none

end Json

end Conventions
