import Conventions.Json.Basic

/-!
# Texts of JSON values

Two layouts of the same value: compact, without any blanks, and indented by two
spaces for each level.
-/

namespace Conventions.Json

/-- One hexadecimal digit, in lower case. -/
def hexDigit (n : Nat) : Char := (Nat.toDigits 16 (n % 16)).headD '0'

/-- A character inside a string: quotes, backslashes and control characters are
escaped, and nothing else is. -/
def escapeChar (c : Char) : List Char :=
  if c = '"' then ['\\', '"']
  else if c = '\\' then ['\\', '\\']
  else if c = '\n' then ['\\', 'n']
  else if c = '\r' then ['\\', 'r']
  else if c = '\t' then ['\\', 't']
  else if c.toNat = 8 then ['\\', 'b']
  else if c.toNat = 12 then ['\\', 'f']
  else if c.toNat < 32 then
    ['\\', 'u', '0', '0', hexDigit (c.toNat / 16), hexDigit c.toNat]
  else [c]

/-- A string between quotes. -/
def quoted (text : String) : List Char :=
  '"' :: (text.toList.flatMap escapeChar ++ ['"'])

mutual

/-- The compact text of a value. -/
def compactChars : Json → List Char
  | null => ['n', 'u', 'l', 'l']
  | bool true => ['t', 'r', 'u', 'e']
  | bool false => ['f', 'a', 'l', 's', 'e']
  | number value => value.text.toList
  | string value => quoted value
  | array items => '[' :: (compactItems items ++ [']'])
  | object fields => '{' :: (compactFields fields ++ ['}'])

/-- The compact text of the items of an array. -/
def compactItems : List Json → List Char
  | [] => []
  | [item] => compactChars item
  | item :: rest => compactChars item ++ ',' :: compactItems rest

/-- The compact text of the fields of an object. -/
def compactFields : List (String × Json) → List Char
  | [] => []
  | [(key, value)] => quoted key ++ ':' :: compactChars value
  | (key, value) :: rest => quoted key ++ ':' :: (compactChars value ++ ',' :: compactFields rest)

end

/-- The compact text of a value. -/
def compact (value : Json) : String := String.ofList (compactChars value)

/-- A new line indented to a level. -/
def newLine (level : Nat) : List Char := '\n' :: List.replicate (2 * level) ' '

mutual

/-- The indented text of a value that starts at a level. -/
def indentedChars (level : Nat) : Json → List Char
  | null => compactChars null
  | bool value => compactChars (bool value)
  | number value => compactChars (number value)
  | string value => compactChars (string value)
  | array [] => ['[', ']']
  | array items =>
    '[' :: (newLine (level + 1) ++ indentedItems (level + 1) items ++ newLine level ++ [']'])
  | object [] => ['{', '}']
  | object fields =>
    '{' :: (newLine (level + 1) ++ indentedFields (level + 1) fields ++ newLine level ++ ['}'])

/-- The indented text of the items of an array. -/
def indentedItems (level : Nat) : List Json → List Char
  | [] => []
  | [item] => indentedChars level item
  | item :: rest => indentedChars level item ++ ',' :: (newLine level ++ indentedItems level rest)

/-- The indented text of the fields of an object. -/
def indentedFields (level : Nat) : List (String × Json) → List Char
  | [] => []
  | [(key, value)] => quoted key ++ ':' :: ' ' :: indentedChars level value
  | (key, value) :: rest =>
    quoted key ++ ':' :: ' ' :: (indentedChars level value ++
      ',' :: (newLine level ++ indentedFields level rest))

end

/-- The indented text of a value. -/
def indented (value : Json) : String := String.ofList (indentedChars 0 value)

end Conventions.Json
