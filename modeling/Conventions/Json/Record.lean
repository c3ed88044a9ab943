import Conventions.Json.Decode

/-!
# Records

Readers for values of a fixed type: texts, switches, lists, tables and records. A
record is written as an object with its fields in any order, or as a list of its
fields in their own order; the fields that are left out keep their initial values.
-/

namespace Conventions.Json

/-- Reads a text. -/
def Node.asText : Node → Except Fault String
  | .string value _ => value
  | other => .error (other.mistyped "a string")

/-- Reads a switch. -/
def Node.asSwitch : Node → Except Fault Bool
  | .bool value _ => .ok value
  | other => .error (other.mistyped "a boolean")

/-- Reads a double; a whole number is rounded to one. -/
def Node.asDouble : Node → Except Fault Binary64
  | .number value _ => value.map JsonNumber.toBinary64
  | other => .error (other.mistyped "f64")

/-- Reads the items of a list with one reader. -/
def Items.mapRead {α : Type} (read : Node → Except Fault α) : Items → Except Fault (List α)
  | .done => .ok []
  | .broken fault => .error fault.read
  | .item _ value rest => do
    let value ← read value
    return value :: (← rest.mapRead read)

/-- Reads a list. -/
def Node.asList {α : Type} (depth : Depth) (read : Depth → Node → Except Fault α) :
    Node → Except Fault (List α)
  | .array start items => do
    let depth ← depth.enter start
    items.mapRead (read depth)
  | other => .error (other.mistyped "a sequence")

/-- Reads a list of texts. -/
def Node.asTexts (depth : Depth) (node : Node) : Except Fault (List String) :=
  node.asList depth fun _ item => item.asText

/-- Reads a value that may be null. -/
def Node.asOptional {α : Type} (read : Node → Except Fault α) : Node → Except Fault (Option α)
  | .null _ => .ok none
  | other => (read other).map some

/-- Reads the fields of a table, each with the place where a fault of its value as a
whole is reported. -/
def Fields.mapRead {α : Type} (read : Mark → Node → Except Fault α) :
    Fields → Except Fault (List (String × α))
  | .done => .ok []
  | .broken fault => .error fault.read
  | .field key _ value valueMark rest => do
    let key ← key
    let value ← read valueMark value
    return (key, value) :: (← rest.mapRead read)

/-- Reads a table from texts to values, in the order of the text. -/
def Node.asTable {α : Type} (depth : Depth) (read : Depth → Mark → Node → Except Fault α) :
    Node → Except Fault (List (String × α))
  | .object start fields => do
    let depth ← depth.enter start
    fields.mapRead (read depth)
  | other => .error (other.mistyped "a map")

/-- A field of a record: its names, the proper one first, and how its value is read
into the record. -/
structure RecordField (σ : Type) where
  name : String
  alternatives : List String
  read : Depth → Node → σ → Except Fault σ

/-- The shape of a record. -/
structure RecordShape (σ : Type) where
  name : String
  fields : List (RecordField σ)
  /-- Whether other fields than those of the record are refused. -/
  isClosed : Bool

namespace RecordShape

variable {σ : Type}

/-- The field that goes by a name. -/
def field? (shape : RecordShape σ) (name : String) : Option (RecordField σ) :=
  shape.fields.find? fun field => field.name == name || field.alternatives.contains name

/-- All names that a field may go by. -/
def names (shape : RecordShape σ) : List String :=
  shape.fields.flatMap fun field => field.name :: field.alternatives

/-- Reads the fields of an object into a record; `seen` are those that were there. -/
def readFields (shape : RecordShape σ) (depth : Depth) (record : σ) (seen : List String) :
    Fields → Except Fault σ
  | .done => .ok record
  | .broken fault => .error fault.read
  | .field key keyMark value _ rest => do
    let key ← key
    match shape.field? key with
    | none =>
      if shape.isClosed then .error ⟨.unknownField key shape.names, keyMark⟩
      else
        value.pass
        shape.readFields depth record seen rest
    | some field =>
      if seen.contains field.name then .error ⟨.duplicateField field.name, keyMark⟩
      else
        let record ← field.read depth value record
        shape.readFields depth record (field.name :: seen) rest

/-- What follows the last field that a list could give: only the end of the list
is right there. -/
def listEnd (length : Nat) : Items → Except Fault Unit
  | .done => .ok ()
  | .broken fault =>
    match fault.read.cause with
    | .endInList | .trailingComma => .error fault.read
    | _ => .error ⟨.trailingCharacters, fault.read.mark⟩
  | .item peek _ _ =>
    if peek.line = 0 then .error ⟨.tooLong length, .nowhere⟩
    else .error ⟨.trailingCharacters, peek⟩

/-- The number of items. -/
def itemCount : Items → Nat
  | .done | .broken _ => 0
  | .item _ _ rest => itemCount rest + 1

/-- Reads the items of a list of `length` into the fields of a record, one by one. -/
def readItems (depth : Depth) (length : Nat) (record : σ) :
    List (RecordField σ) → Items → Except Fault σ
  | [], items => do
    listEnd length items
    return record
  | _ :: _, .done => .ok record
  | _ :: _, .broken fault => .error fault.read
  | field :: fields, .item _ value rest => do
    let record ← field.read depth value record
    readItems depth length record fields rest

/-- Reads a record, starting from its initial value. -/
def read (shape : RecordShape σ) (initial : σ) (depth : Depth) : Node → Except Fault σ
  | .object start fields => do
    let depth ← depth.enter start
    shape.readFields depth initial [] fields
  | .array start items => do
    let depth ← depth.enter start
    readItems depth (itemCount items) initial shape.fields items
  | other => .error (other.mistyped ("struct " ++ shape.name))

end RecordShape

/-- Reads a whole text with one reader; nothing but blanks may follow the value. -/
def Document.read {α : Type} (reader : Depth → Node → Except Fault α) (document : Document) :
    Except Fault α := do
  let value ← reader .ofText document.root
  match document.trailing with
  | none => return value
  | some mark => throw ⟨.trailingCharacters, mark⟩

/-- The value of a JSON text. -/
def parse (text : String) : Except Fault Json := (Document.ofText text).read Node.value

/-- Reads a value that is already there, without any limit on its depth. -/
def readAs {α : Type} (reader : Depth → Node → Except Fault α) (value : Json) : Except Fault α :=
  reader none (Node.ofJson value)

end Conventions.Json
