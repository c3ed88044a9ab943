import Conventions.Yaml.Basic

/-!
# YAML values as JSON values

Keys become texts, and a tag becomes an object with one field that is named after it.
Numbers that JSON does not have become null.
-/

namespace Conventions.Yaml

/-- The text of a key that is a simple value; otherwise why there is none. -/
def keyText : Yaml → Except String String
  | string value => .ok value
  | bool value => .ok (if value then "true" else "false")
  | number value => .ok (numberText value)
  | null => .ok "null"
  | other => .error ("unsupported mapping key " ++ quoted other)

/-- The name of the field that stands for a tag. -/
def tagField (tag : String) : String :=
  let name := String.ofList (tag.toList.dropWhile (· == '!'))
  if name = "Ref" then name else "Fn::" ++ name

/-- The number as a JSON value. -/
def numberJson : JsonNumber → Json
  | .whole value => .number (.whole value)
  | .double value => if value.isFinite then .number (.double value) else .null

mutual

/-- The JSON value that stands for a YAML value. Of two keys with one text, the first
gives the place and the second the value. -/
def toJson : Yaml → Except String Json
  | null => .ok .null
  | bool value => .ok (.bool value)
  | number value => .ok (numberJson value)
  | string value => .ok (.string value)
  | sequence items => do return .array (← itemsToJson items)
  | mapping entries => do return .object (Entries.ofPairs (← entriesToJson entries))
  | tagged tag value => do return .object [(tagField tag, ← toJson value)]

/-- The JSON values that stand for items. -/
def itemsToJson : List Yaml → Except String (List Json)
  | [] => .ok []
  | item :: rest => do
    let item ← toJson item
    return item :: (← itemsToJson rest)

/-- The fields that stand for entries. -/
def entriesToJson : List (Yaml × Yaml) → Except String (List (String × Json))
  | [] => .ok []
  | (key, value) :: rest => do
    let key ← keyText key
    let value ← toJson value
    return (key, value) :: (← entriesToJson rest)

end

end Conventions.Yaml
