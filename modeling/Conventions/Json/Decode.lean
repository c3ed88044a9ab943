import Conventions.Json.Scan
import Conventions.Text.Quoted

/-!
# Reading values of expected shapes

Each reader takes a marked document apart and reports the first fault in the order
of the text. The same readers serve values that were not read from a text; their
faults have no place.
-/

namespace Conventions.Json

/-- How many more levels of lists and objects a reader enters; no limit if absent. -/
abbrev Depth := Option Nat

/-- The limit for texts: lists and objects nest up to 127 levels deep. -/
def Depth.ofText : Depth := some 128

/-- Enters a list or an object that starts at a place. -/
def Depth.enter (depth : Depth) (start : Mark) : Except Fault Depth :=
  match depth with
  | none => .ok none
  | some (more + 2) => .ok (some (more + 1))
  | some _ => .error ⟨.tooDeep, ⟨start.line, start.column + 1⟩⟩

mutual

/-- Passes over a value, which only has to be written correctly. -/
def Node.pass : Node → Except Fault Unit
  | .null _ | .bool .. | .number .. | .string .. => .ok ()
  | .array _ items => items.pass
  | .object _ fields => fields.pass
  | .broken fault => .error fault.passed

/-- Passes over items. -/
def Items.pass : Items → Except Fault Unit
  | .done => .ok ()
  | .broken fault => .error fault.passed
  | .item _ value rest => do value.pass; rest.pass

/-- Passes over fields. -/
def Fields.pass : Fields → Except Fault Unit
  | .done => .ok ()
  | .broken fault => .error fault.passed
  | .field _ _ value _ rest => do value.pass; rest.pass

end

mutual

/-- Reads any value. -/
def Node.value (depth : Depth) : Node → Except Fault Json
  | .null _ => .ok .null
  | .bool value _ => .ok (.bool value)
  | .number value _ => value.map .number
  | .string value _ => value.map .string
  | .array start items => do
    let depth ← depth.enter start
    return .array (← items.values depth)
  | .object start fields => do
    let depth ← depth.enter start
    return .object (Entries.ofPairs (← fields.values depth))
  | .broken fault => .error fault.read

/-- Reads items of any kind. -/
def Items.values (depth : Depth) : Items → Except Fault (List Json)
  | .done => .ok []
  | .broken fault => .error fault.read
  | .item _ value rest => do
    let value ← value.value depth
    return value :: (← rest.values depth)

/-- Reads fields of any kind, in the order of the text. -/
def Fields.values (depth : Depth) : Fields → Except Fault (List (String × Json))
  | .done => .ok []
  | .broken fault => .error fault.read
  | .field key _ value _ rest => do
    let key ← key
    let value ← value.value depth
    return (key, value) :: (← rest.values depth)

end

/-- The fault of a value that is not of the expected type. -/
def Node.mistyped (expected : String) : Node → Fault
  | .null stop => ⟨.wrongType "null" expected, stop⟩
  | .bool value stop =>
    ⟨.wrongType ("boolean `" ++ (if value then "true" else "false") ++ "`") expected, stop⟩
  | .number (.ok (.whole value)) stop =>
    ⟨.wrongType ("integer `" ++ JsonNumber.wholeText value ++ "`") expected, stop⟩
  | .number (.ok value) stop =>
    ⟨.wrongType ("floating point `" ++ value.text ++ "`") expected, stop⟩
  | .string (.ok value) stop => ⟨.wrongType ("string " ++ Text.quoted value) expected, stop⟩
  | .number (.error fault) _ | .string (.error fault) _ => fault
  | .array start _ => ⟨.wrongType "sequence" expected, start⟩
  | .object start _ => ⟨.wrongType "map" expected, start⟩
  | .broken fault => fault.read

end Conventions.Json
