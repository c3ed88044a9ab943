import Conventions.Json.Basic

/-!
# Marked JSON documents

The tree of a JSON text in which every value knows its place. A text that breaks
off or goes wrong still has a tree: it holds what was read up to that point and,
there, what is wrong. A reader that expects a certain shape can so report the
first thing that is amiss in the order of the text, be it the shape or the
writing.
-/

namespace Conventions.Json

/-- A place in a text: lines from 1, columns in bytes from 0. Line 0 stands for no
place at all, as in a value that was not read from a text. -/
structure Mark where
  line : Nat
  column : Nat
  deriving DecidableEq, Repr, Inhabited

namespace Mark

/-- The start of a text. -/
def start : Mark := ⟨1, 0⟩

/-- No place. -/
def nowhere : Mark := ⟨0, 0⟩

/-- The place behind a character. -/
def after (mark : Mark) (c : Char) : Mark :=
  if c = '\n' then ⟨mark.line + 1, 0⟩ else ⟨mark.line, mark.column + c.utf8Size⟩

/-- The place behind the first byte of the remaining text; the same place at its end. -/
def peek (mark : Mark) : List Char → Mark
  | [] => mark
  | c :: _ => if c = '\n' then ⟨mark.line + 1, 0⟩ else ⟨mark.line, mark.column + 1⟩

/-- The place behind a run of characters. -/
def afterAll (mark : Mark) (text : List Char) : Mark := text.foldl after mark

/-- The place behind the next `count` bytes of the remaining text. -/
def afterBytes (mark : Mark) : Nat → List Char → Mark
  | 0, _ | _, [] => mark
  | count + 1, c :: rest =>
    if c.utf8Size ≤ count + 1 then afterBytes (mark.after c) (count + 1 - c.utf8Size) rest
    else ⟨mark.line, mark.column + count + 1⟩
  termination_by _ text => text.length

end Mark

/-- What is wrong with a JSON text, or with its value for the one who reads it. -/
inductive Cause where
  | endInValue
  | endInList
  | endInObject
  | endInString
  | expectedColon
  | expectedListEnd
  | expectedObjectEnd
  | expectedWord
  | expectedValue
  | invalidEscape
  | invalidNumber
  | numberOutOfRange
  | loneSurrogate
  | unpairedSurrogate
  | controlCharacter
  | keyNotString
  | trailingComma
  | trailingCharacters
  | tooDeep
  /-- A value of another type than the expected one. -/
  | wrongType (found expected : String)
  /-- A field that the record does not have, with the names it has. -/
  | unknownField (name : String) (known : List String)
  /-- A field given twice. -/
  | duplicateField (name : String)
  /-- More items than the record has fields. -/
  | tooLong (length : Nat)
  /-- A value that its reader refuses for a reason of its own. -/
  | refused (reason : String)
  deriving DecidableEq, Repr, Inhabited

/-- The names of fields as a choice. -/
def choiceText : List String → String
  | [] => "there are no fields"
  | [one] => "expected `" ++ one ++ "`"
  | [one, other] => "expected `" ++ one ++ "` or `" ++ other ++ "`"
  | many => "expected one of " ++ ", ".intercalate (many.map fun name => "`" ++ name ++ "`")

/-- The wording of a cause. -/
def Cause.text : Cause → String
  | endInValue => "EOF while parsing a value"
  | endInList => "EOF while parsing a list"
  | endInObject => "EOF while parsing an object"
  | endInString => "EOF while parsing a string"
  | expectedColon => "expected `:`"
  | expectedListEnd => "expected `,` or `]`"
  | expectedObjectEnd => "expected `,` or `\x7d`"
  | expectedWord => "expected ident"
  | expectedValue => "expected value"
  | invalidEscape => "invalid escape"
  | invalidNumber => "invalid number"
  | numberOutOfRange => "number out of range"
  | loneSurrogate => "lone leading surrogate in hex escape"
  | unpairedSurrogate => "unexpected end of hex escape"
  | controlCharacter => "control character (\\u0000-\\u001F) found while parsing a string"
  | keyNotString => "key must be a string"
  | trailingComma => "trailing comma"
  | trailingCharacters => "trailing characters"
  | tooDeep => "recursion limit exceeded"
  | wrongType found expected => "invalid type: " ++ found ++ ", expected " ++ expected
  | unknownField name known => "unknown field `" ++ name ++ "`, " ++ choiceText known
  | duplicateField name => "duplicate field `" ++ name ++ "`"
  | tooLong length =>
    "invalid length " ++ toString length ++ ", expected fewer elements in array"
  | refused reason => reason

/-- A cause with its place. -/
structure Fault where
  cause : Cause
  mark : Mark
  deriving DecidableEq, Repr, Inhabited

/-- The message of a fault; the place is left out where there is none. -/
def Fault.text (fault : Fault) : String :=
  if fault.mark.line = 0 then fault.cause.text
  else fault.cause.text ++ " at line " ++ toString fault.mark.line ++
    " column " ++ toString fault.mark.column

/-- The point at which a text is no longer JSON. What is reported differs between a
value that is read and one that is only passed over. -/
structure Break where
  read : Fault
  passed : Fault
  deriving DecidableEq, Repr, Inhabited

/-- A break that is reported alike in both cases. -/
def Break.at (cause : Cause) (mark : Mark) : Break := ⟨⟨cause, mark⟩, ⟨cause, mark⟩⟩

/-- A break with one place and two causes. -/
def Break.either (read passed : Cause) (mark : Mark) : Break := ⟨⟨read, mark⟩, ⟨passed, mark⟩⟩

mutual

/-- A value with its marks: a scalar knows the place behind it, a list or an object
the place before it. A number or a string that no value belongs to, such as a
surrogate without its partner, is faulty only for those who read it. -/
inductive Node where
  | null (stop : Mark)
  | bool (value : Bool) (stop : Mark)
  | number (value : Except Fault JsonNumber) (stop : Mark)
  | string (value : Except Fault String) (stop : Mark)
  | array (start : Mark) (items : Items)
  | object (start : Mark) (fields : Fields)
  | broken (fault : Break)

/-- The items of a list, each with the place behind its first byte. -/
inductive Items where
  | done
  | broken (fault : Break)
  | item (peek : Mark) (value : Node) (rest : Items)

/-- The fields of an object. The marks of a field are where a fault of its key, or
of its value as a whole, is reported. -/
inductive Fields where
  | done
  | broken (fault : Break)
  | field (key : Except Fault String) (keyMark : Mark) (value : Node) (valueMark : Mark)
      (rest : Fields)

end

/-- A whole text: its value, and the place of the first character behind it if
there is one. -/
structure Document where
  root : Node
  trailing : Option Mark

mutual

/-- A value that was not read from a text, as a tree without places. -/
def Node.ofJson : Json → Node
  | .null => .null .nowhere
  | .bool value => .bool value .nowhere
  | .number value => .number (.ok value) .nowhere
  | .string value => .string (.ok value) .nowhere
  | .array items => .array .nowhere (Items.ofJson items)
  | .object fields => .object .nowhere (Fields.ofJson fields)

/-- The items of a list as a tree without places. -/
def Items.ofJson : List Json → Items
  | [] => .done
  | item :: rest => .item .nowhere (Node.ofJson item) (Items.ofJson rest)

/-- The fields of an object as a tree without places. -/
def Fields.ofJson : List (String × Json) → Fields
  | [] => .done
  | (key, value) :: rest =>
    .field (.ok key) .nowhere (Node.ofJson value) .nowhere (Fields.ofJson rest)

end

end Conventions.Json
