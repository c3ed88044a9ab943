import Conventions.Yaml.Style

/-!
# YAML texts

Values are written in block style, two spaces for each level, with the sequences in a
mapping as far to the left as its keys. Only empty collections are written in one
line.
-/

namespace Conventions.Yaml

/-- A character of a tag that is not escaped. -/
def isTagLetter (c : Char) : Bool :=
  c.isAlphanum || ['_', '-', ';', '/', '?', ':', '@', '&', '=', '+', '$', ',', '.', '!', '~', '*',
    '\'', '(', ')', '[', ']'].contains c

/-- A character of a tag. -/
def tagChar (c : Char) : List Char :=
  if isTagLetter c then [c]
  else c.toString.toUTF8.toList.flatMap fun byte => '%' :: Style.escapeDigits 2 byte.toNat

/-- The text of a tag with its mark. The mark alone is written in full. -/
def tagChars (tag : String) : List Char :=
  if tag = "!" then ['!', '<', '!', '>'] else '!' :: tag.toList.flatMap tagChar

/-- The text of a scalar; further lines stand at `indent`. -/
def scalarChars (indent : Nat) : Yaml → List Char
  | null => ['n', 'u', 'l', 'l']
  | bool value => if value then ['t', 'r', 'u', 'e'] else ['f', 'a', 'l', 's', 'e']
  | number value => (numberText value).toList
  | string value => (Style.ofText value).render indent value
  | sequence _ => ['[', ']']
  | mapping _ => ['{', '}']
  | tagged _ _ => []

/-- Where a value is written: at the start of the text, behind the colon of a simple key,
or behind a mark at the start of an entry. -/
inductive Spot where
  | start
  | behindColon
  | behindMark
  deriving DecidableEq

/-- Whether the text so far ends a line. -/
def endsLine (text : List Char) : Bool := text.getLast?.any Style.isLineEnd

/-- The start of a line at a column, unless it has been started. -/
def lineAt (column : Nat) : List Char := '\n' :: List.replicate column ' '

/-- Entries in lines of their own that start at a column, the first one where the text
stands. -/
def entryLines (column : Nat) : List (List Char) → List Char
  | [] => []
  | [entry] => entry
  | entry :: rest =>
    entry ++ (if endsLine entry then List.replicate column ' ' else lineAt column) ++
      entryLines column rest

/-- The space before a value. -/
def gap : Spot → List Char
  | .start => []
  | _ => [' ']

/-- The length of a value as a key, in bytes, if it takes one line. -/
def keySize? : Yaml → Option Nat
  | string value =>
    if Style.isMultiline value.toList then Option.none else some value.utf8ByteSize
  | sequence items => if items.isEmpty then some 0 else Option.none
  | mapping entries => if entries.isEmpty then some 0 else Option.none
  | tagged tag value => (keySize? value).map (· + tag.utf8ByteSize + 1)
  | other => some (scalarChars 0 other).length

/-- Whether a value is written as a key in front of a colon. -/
def isSimpleKey (key : Yaml) : Bool := (keySize? key).any (· ≤ 128)

/-- A value as a simple key. -/
def simpleKey : Yaml → List Char
  | tagged tag value => tagChars tag ++ ' ' :: simpleKey value
  | value => scalarChars 0 value

mutual

/-- A value behind what stands before it: `indent` is the column of the collection it is
in, `inMapping` tells whether that is a mapping, and `tag` is the tag before it. -/
def nodeChars (spot : Spot) (inMapping : Bool) (indent : Option Nat) (tag : Option String) :
    Yaml → List Char
  | .tagged own value => nodeChars spot inMapping indent (some own) value
  | .sequence (item :: items) =>
    let before := match tag with
      | some tag => gap spot ++ tagChars tag
      | none => []
    let onNewLine := tag.isSome || spot == .behindColon
    let column := match indent with
      | none => 0
      | some indent => if inMapping && onNewLine then indent else indent + 2
    before ++ (if onNewLine then lineAt column else gap spot) ++
      entryLines column (itemChars column (item :: items))
  | .mapping (entry :: entries) =>
    let before := match tag with
      | some tag => gap spot ++ tagChars tag
      | none => []
    let onNewLine := tag.isSome || spot == .behindColon
    let column := match indent with
      | none => 0
      | some indent => indent + 2
    before ++ (if onNewLine then lineAt column else gap spot) ++
      entryLines column (entryChars column (entry :: entries))
  | scalar =>
    let text := scalarChars ((indent.getD 0) + 2) scalar
    match tag with
    | some tag => gap spot ++ tagChars tag ++ ' ' :: text
    | none => gap spot ++ text

/-- The items of a sequence at a column. -/
def itemChars (column : Nat) : List Yaml → List (List Char)
  | [] => []
  | item :: rest =>
    ('-' :: nodeChars .behindMark false (some column) none item) :: itemChars column rest

/-- The entries of a mapping at a column. A key that is not simple has a mark, and then
the value has one too, in a line of its own. -/
def entryChars (column : Nat) : List (Yaml × Yaml) → List (List Char)
  | [] => []
  | (key, value) :: rest =>
    (if isSimpleKey key then
      simpleKey key ++ ':' :: nodeChars .behindColon true (some column) none value
    else
      entryLines column [
        '?' :: nodeChars .behindMark true (some column) none key,
        ':' :: nodeChars .behindMark true (some column) none value]) ::
      entryChars column rest

end

/-- The text of a value as a document. -/
def text (value : Yaml) : String :=
  let chars := nodeChars .start false none none value
  String.ofList (if endsLine chars then chars else chars ++ ['\n'])

end Conventions.Yaml
