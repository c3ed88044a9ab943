import Conventions.Failure
import Conventions.Json.Basic
import Conventions.Text.Blank

/-!
# Path queries

A query leads from a document to one of its parts, by object keys and array
indexes. Its text is a list of segments between dots; a segment is a key, plain or
quoted, with any number of indexes, and the first segment may be indexes alone.

The text is read one character at a time. The printer writes every key in quotes,
and what it writes is read back as the same query.
-/

namespace Conventions

/-- One step into a document. -/
inductive Step where
  | key (name : String)
  | index (position : Nat)
  deriving DecidableEq, Repr, Inhabited

/-- A path into a document; the empty one leads to the document itself. -/
structure Query where
  steps : List Step
  deriving DecidableEq, Repr, Inhabited

namespace Query

/-- What is wrong with the text of a query. -/
inductive Problem where
  | unterminatedEscape
  | unterminatedQuote
  | unexpected (c : Char)
  | emptySegment
  | unexpectedInIndex (c : Char)
  | unterminatedIndex
  | emptyIndex
  | trailingDot
  deriving DecidableEq, Repr

/-- The wording of a problem. -/
def Problem.text : Problem → String
  | unterminatedEscape => "unterminated escape"
  | unterminatedQuote => "unterminated quote"
  | unexpected c => "unexpected '" ++ String.singleton c ++ "'"
  | emptySegment => "empty segment"
  | unexpectedInIndex c => "unexpected '" ++ String.singleton c ++ "' in index"
  | unterminatedIndex => "unterminated index"
  | emptyIndex => "empty index"
  | trailingDot => "trailing '.'"

/-- Where the reader stands: between the parts of a query, or inside a key or an
index whose characters so far are given last one first. -/
inductive Place where
  /-- Before the first segment. -/
  | start
  /-- Behind a dot. -/
  | segment
  | plainKey (chars : List Char)
  | quotedKey (chars : List Char)
  /-- Behind a backslash in a quoted key. -/
  | escape (chars : List Char)
  | index (digits : List Char)
  /-- Behind a quoted key or an index. -/
  | closed
  deriving DecidableEq, Repr

/-- A decimal digit. -/
def isDigit (c : Char) : Bool := '0' ≤ c && c ≤ '9'

/-- The number of decimal digits. -/
def digitsValue (digits : List Char) : Nat :=
  digits.foldl (fun value c => 10 * value + (c.toNat - '0'.toNat)) 0

/-- Indexes are below this bound. -/
def indexBound : Nat := UInt64.size

/-- The index with the given digits, last one first. -/
def indexOf? (digits : List Char) : Option Nat :=
  let value := digitsValue digits.reverse
  if digits.isEmpty || indexBound ≤ value then none else some value

/-- The key with the given characters, last one first. -/
def keyStep (chars : List Char) : Step := .key (String.ofList chars.reverse)

/-- Reads one character: the next place, and the step that it completes. -/
def advance : Place → Char → Except Problem (Place × List Step)
  | .start, c =>
    if c = '"' then .ok (.quotedKey [], [])
    else if c = '[' then .ok (.index [], [])
    else if c = '.' then .error .emptySegment
    else if c = ']' then .error (.unexpected c)
    else .ok (.plainKey [c], [])
  | .segment, c =>
    if c = '"' then .ok (.quotedKey [], [])
    else if c = '[' ∨ c = '.' then .error .emptySegment
    else if c = ']' then .error (.unexpected c)
    else .ok (.plainKey [c], [])
  | .plainKey chars, c =>
    if c = '.' then .ok (.segment, [keyStep chars])
    else if c = '[' then .ok (.index [], [keyStep chars])
    else if c = ']' ∨ c = '"' then .error (.unexpected c)
    else .ok (.plainKey (c :: chars), [])
  | .quotedKey chars, c =>
    if c = '\\' then .ok (.escape chars, [])
    else if c = '"' then .ok (.closed, [keyStep chars])
    else .ok (.quotedKey (c :: chars), [])
  | .escape chars, c => .ok (.quotedKey (c :: chars), [])
  | .index digits, c =>
    if c = ']' then
      match indexOf? digits with
      | some position => .ok (.closed, [.index position])
      | none => .error .emptyIndex
    else if isDigit c then .ok (.index (c :: digits), [])
    else .error (.unexpectedInIndex c)
  | .closed, c =>
    if c = '[' then .ok (.index [], [])
    else if c = '.' then .ok (.segment, [])
    else .error (.unexpected c)

/-- The end of the text: the step that it completes. -/
def finish : Place → Except Problem (List Step)
  | .start => .error .emptySegment
  | .segment => .error .trailingDot
  | .plainKey chars => .ok [keyStep chars]
  | .quotedKey _ => .error .unterminatedQuote
  | .escape _ => .error .unterminatedEscape
  | .index _ => .error .unterminatedIndex
  | .closed => .ok []

/-- Reads the text from a place on. -/
def readFrom (place : Place) : List Char → Except Problem (List Step)
  | [] => finish place
  | c :: rest => do
    let (next, steps) ← advance place c
    return steps ++ (← readFrom next rest)

/-- The query with a given text. A blank text is the empty query. -/
def parse (text : String) : Except Problem Query :=
  if Text.allBlank text.toList then .ok ⟨[]⟩
  else (readFrom .start text.toList).map Query.mk

/-- The query with a given text; a text that has none is an invalid selector. -/
def ofText (text : String) : Except Failure Query :=
  (parse text).mapError fun problem => .invalidSelector text problem.text

/-- A character of a quoted key. -/
def escapeChar (c : Char) : List Char :=
  if c = '\\' ∨ c = '"' then ['\\', c] else [c]

/-- A key in quotes. -/
def quotedKeyChars (name : String) : List Char :=
  '"' :: (name.toList.flatMap escapeChar ++ ['"'])

/-- The text of steps; `isFirst` tells that none is before them. -/
def stepsChars (isFirst : Bool) : List Step → List Char
  | [] => []
  | .key name :: rest =>
    (if isFirst then [] else ['.']) ++ quotedKeyChars name ++ stepsChars false rest
  | .index position :: rest =>
    '[' :: (Nat.toDigits 10 position ++ ']' :: stepsChars false rest)

/-- The text of a query, with every key in quotes. -/
def display (query : Query) : String := String.ofList (stepsChars true query.steps)

/-- The part that steps lead to. -/
def selectSteps : List Step → Json → Option Json
  | [], value => some value
  | .key name :: rest, .object fields => do selectSteps rest (← Entries.find? name fields)
  | .index position :: rest, .array items => do selectSteps rest (← items[position]?)
  | _ :: _, _ => none

/-- The part of a document that a query leads to, if there is one. -/
def select (query : Query) (document : Json) : Option Json := selectSteps query.steps document

/-- A place in a document: what stands there, and the document once something else does. -/
structure Slot where
  content : Json
  write : Json → Json

/-- The place where a step leads from another one, if it leads anywhere. -/
def Slot.enter (slot : Slot) : Step → Option Slot
  | .key name =>
    match slot.content with
    | .object fields => do
      let part ← Entries.find? name fields
      return ⟨part, fun value => slot.write (.object (Entries.insert name value fields))⟩
    | _ => none
  | .index position =>
    match slot.content with
    | .array items => do
      let part ← items[position]?
      return ⟨part, fun value => slot.write (.array (items.set position value))⟩
    | _ => none

/-- The place in a document where a query leads, if it leads anywhere. -/
def slot? (query : Query) (document : Json) : Option Slot :=
  query.steps.foldlM Slot.enter ⟨document, id⟩

/-- The document with another value in the place of the selected part. -/
def replace? (query : Query) (replacement document : Json) : Option Json :=
  (query.slot? document).map fun slot => slot.write replacement

end Query

end Conventions
