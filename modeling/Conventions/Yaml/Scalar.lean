import Conventions.Yaml.Plain
import Conventions.Yaml.Token

/-!
# Scalars in YAML texts

The texts of plain, quoted and block scalars. Line breaks inside a scalar are
folded: one break stands for a space, and of several the first is dropped.
-/

namespace Conventions.Yaml

/-- A place in a text: the line, the column and the number of characters before it. -/
structure Place where
  line : Nat
  column : Nat
  index : Nat
  deriving DecidableEq, Repr, Inhabited

/-- The place behind a character of the same line. -/
def Place.next (place : Place) : Place := ⟨place.line, place.column + 1, place.index + 1⟩

/-- The place behind a line break. -/
def Place.nextLine (place : Place) : Place := ⟨place.line + 1, 0, place.index + 1⟩

/-- The place `count` characters on in the same line. -/
def Place.forward (place : Place) (count : Nat) : Place :=
  ⟨place.line, place.column + count, place.index + count⟩

/-- What is left of a text, and the place where it starts. -/
structure Cursor where
  place : Place
  rest : List Char
  deriving Inhabited

/-- A line break. The usual ones have been made line feeds before. -/
def isBreak (c : Char) : Bool := c == '\n' || c.toNat == 0x2028 || c.toNat == 0x2029

/-- A space or a tab. -/
def isBlank (c : Char) : Bool := c == ' ' || c == '\t'

/-- Whether a text starts with a blank or a break, or is at its end. -/
def endsWord : List Char → Bool
  | [] => true
  | c :: _ => isBlank c || isBreak c

/-- Whether a text starts with a marker of documents. -/
def startsMarker : List Char → Bool
  | '-' :: '-' :: '-' :: rest => endsWord rest
  | '.' :: '.' :: '.' :: rest => endsWord rest
  | _ => false

/-- Blanks and breaks between two words of a scalar. -/
inductive Gap where
  | none
  /-- Blanks only, last one first. -/
  | blanks (reversed : List Char)
  /-- Breaks: the first one, unless it was escaped, and the others, last one first. -/
  | breaks (first : Option Char) (more : List Char)

namespace Gap

/-- Whether a line ends in the gap. -/
def hasBreak : Gap → Bool
  | breaks .. => true
  | _ => false

/-- The gap with one more blank. Blanks next to a break do not count. -/
def addBlank (c : Char) : Gap → Gap
  | none => blanks [c]
  | blanks reversed => blanks (c :: reversed)
  | gap => gap

/-- The gap with one more break. -/
def addBreak (c : Char) : Gap → Gap
  | breaks first more => breaks first (c :: more)
  | _ => breaks (some c) []

/-- What the gap stands for, last character first. -/
def reversedText : Gap → List Char
  | none => []
  | blanks reversed => reversed
  | breaks (some '\n') [] => [' ']
  | breaks (some '\n') more => more
  | breaks (some c) more => more ++ [c]
  | breaks Option.none more => more

end Gap

/-- Whether a plain scalar ends before a text, in the middle of a word. In a flow
collection its indicators end it, and a colon before one of them is refused. -/
def plainEnds (inFlow : Bool) : List Char → Except Problem Bool
  | [] => .ok true
  | c :: rest =>
    let flowIndicator := [',', '[', ']', '{', '}']
    if inFlow && c == ':' && (rest.head?.any fun d => d == '?' || flowIndicator.contains d) then
      .error .unexpectedColon
    else .ok ((c == ':' && endsWord rest) || (inFlow && flowIndicator.contains c))

/-- Reads a plain scalar on. `indent` is the least column at which it may continue, and
`reversed` its text so far. The result tells whether a line ends behind it. -/
def plainFrom (inFlow : Bool) (indent : Nat) (reversed : List Char) (gap : Gap) (place : Place) :
    List Char → Except Problem (String × Bool × Cursor)
  | [] => .ok (String.ofList reversed.reverse, gap.hasBreak, ⟨place, []⟩)
  | c :: rest =>
    if isBlank c then
      if gap.hasBreak && c == '\t' && place.column < indent then .error .tabInIndentation
      else plainFrom inFlow indent reversed (gap.addBlank c) place.next rest
    else if isBreak c then
      plainFrom inFlow indent reversed (gap.addBreak c) place.nextLine rest
    else
      let isNewWord := match gap with
        | .none => false
        | _ => true
      let stops := isNewWord && ((!inFlow && place.column < indent) ||
        (place.column == 0 && startsMarker (c :: rest)) || c == '#')
      if stops then .ok (String.ofList reversed.reverse, gap.hasBreak, ⟨place, c :: rest⟩)
      else
        match plainEnds inFlow (c :: rest) with
        | .error problem => .error problem
        | .ok true => .ok (String.ofList reversed.reverse, gap.hasBreak, ⟨place, c :: rest⟩)
        | .ok false =>
          plainFrom inFlow indent (c :: (gap.reversedText ++ reversed)) .none place.next rest

/-- The character whose code point the first `count` characters give. -/
def codePoint? (count : Nat) (text : List Char) : Option Char := do
  let digits := text.take count
  if digits.length ≠ count then failure
  let value ← digits.foldlM (fun value c => (Plain.digit? c).map (16 * value + ·)) 0
  if h : value.isValidChar then return Char.ofNatAux value h else failure

/-- The character that an escape stands for, and the number of characters behind the
escaped one that belong to it. -/
def escape? (c : Char) (rest : List Char) : Option (Char × Nat) :=
  match c with
  | '0' => some (Char.ofNat 0, 0)
  | 'a' => some (Char.ofNat 7, 0)
  | 'b' => some (Char.ofNat 8, 0)
  | 't' | '\t' => some ('\t', 0)
  | 'n' => some ('\n', 0)
  | 'v' => some (Char.ofNat 11, 0)
  | 'f' => some (Char.ofNat 12, 0)
  | 'r' => some ('\r', 0)
  | 'e' => some (Char.ofNat 27, 0)
  | ' ' | '"' | '/' | '\\' => some (c, 0)
  | 'N' => some (Char.ofNat 0x85, 0)
  | '_' => some (Char.ofNat 0xA0, 0)
  | 'L' => some (Char.ofNat 0x2028, 0)
  | 'P' => some (Char.ofNat 0x2029, 0)
  | 'x' => (codePoint? 2 rest).map fun value => (value, 2)
  | 'u' => (codePoint? 4 rest).map fun value => (value, 4)
  | 'U' => (codePoint? 8 rest).map fun value => (value, 8)
  | _ => none

/-- Reads a quoted scalar on, up to its closing quote. `skipped` characters have been
read together with the one before them. -/
def quotedFrom (isSingle : Bool) (skipped : Nat) (reversed : List Char) (gap : Gap)
    (place : Place) : List Char → Except Problem (String × Cursor)
  | [] => .error .unclosedQuote
  | c :: rest =>
    match skipped with
    | more + 1 => quotedFrom isSingle more reversed gap place.next rest
    | 0 =>
      if isBlank c then quotedFrom isSingle 0 reversed (gap.addBlank c) place.next rest
      else if isBreak c then quotedFrom isSingle 0 reversed (gap.addBreak c) place.nextLine rest
      else if place.column == 0 && startsMarker (c :: rest) then .error .markerInQuotes
      else
        let reversed := gap.reversedText ++ reversed
        if isSingle then
          if c != '\'' then quotedFrom isSingle 0 (c :: reversed) .none place.next rest
          else if rest.head? == some '\'' then
            quotedFrom isSingle 1 (c :: reversed) .none place.next rest
          else .ok (String.ofList reversed.reverse, ⟨place.next, rest⟩)
        else if c == '"' then .ok (String.ofList reversed.reverse, ⟨place.next, rest⟩)
        else if c != '\\' then quotedFrom isSingle 0 (c :: reversed) .none place.next rest
        else
          match rest with
          | [] => .error .invalidEscape
          | d :: rest =>
            if isBreak d then
              quotedFrom isSingle 0 reversed (.breaks none []) place.next.nextLine rest
            else match escape? d rest with
              | none => .error .invalidEscape
              | some (value, more) =>
                quotedFrom isSingle more (value :: reversed) .none place.next.next rest

/-- What is done with the breaks at the end of a block scalar. -/
inductive Chomping where
  | clip
  | strip
  | keep
  deriving DecidableEq, Repr

/-- The header of a block scalar: the chomping and the indentation, if given, and what
follows. -/
def blockHeader (text : List Char) : Except Problem (Chomping × Option Nat × List Char) :=
  let chomping? : Char → Option Chomping
    | '+' => some .keep
    | '-' => some .strip
    | _ => none
  let indent? : Char → Except Problem (Option Nat) := fun c =>
    if '1' ≤ c ∧ c ≤ '9' then .ok (some (c.toNat - '0'.toNat))
    else if c = '0' then .error .invalidBlockHeader
    else .ok none
  match text with
  | [] => .ok (.clip, none, [])
  | c :: rest =>
    match chomping? c with
    | some chomping =>
      match rest with
      | [] => .ok (chomping, none, [])
      | d :: behind => do
        match ← indent? d with
        | some indent => return (chomping, some indent, behind)
        | none => return (chomping, none, rest)
    | none => do
      match ← indent? c with
      | none => return (.clip, none, text)
      | some indent =>
        match rest with
        | [] => return (.clip, some indent, [])
        | d :: behind =>
          match chomping? d with
          | some chomping => return (chomping, some indent, behind)
          | none => return (.clip, some indent, rest)

/-- Passes over the indentation of lines and over lines with nothing else. `indent` is
absent as long as it is not known, and `widest` the widest indentation so far. -/
def blockGap (indent? : Option Nat) (widest : Nat) (breaks : List Char) (place : Place) :
    List Char → Except Problem (List Char × Nat × Cursor)
  | [] => .ok (breaks, max widest place.column, ⟨place, []⟩)
  | c :: rest =>
    let isBefore := indent?.all fun indent => place.column < indent
    if isBefore && c == ' ' then blockGap indent? widest breaks place.next rest
    else if isBefore && c == '\t' then .error .tabInIndentation
    else if isBreak c then
      blockGap indent? (max widest place.column) (c :: breaks) place.nextLine rest
    else .ok (breaks, max widest place.column, ⟨place, c :: rest⟩)

/-- The text of a block scalar so far. -/
structure BlockText where
  /-- The finished part, last character first. -/
  reversed : List Char
  /-- The break at the end of the last line, if any. -/
  lastBreak : Option Char
  /-- The breaks of the empty lines behind it, last one first. -/
  breaks : List Char
  /-- Whether the last line started with a blank. -/
  wasIndented : Bool

/-- The text with the breaks before a line added. A single break between two lines that
do not start with blanks is folded. -/
def BlockText.join (isLiteral : Bool) (isIndented : Bool) (text : BlockText) : List Char :=
  let first :=
    if !isLiteral && text.lastBreak == some '\n' && !text.wasIndented && !isIndented then
      if text.breaks.isEmpty then [' '] else []
    else text.lastBreak.toList
  text.breaks ++ first ++ text.reversed

/-- Reads the lines of a block scalar on, `fuel` of them at most. -/
def blockLines (isLiteral : Bool) (indent : Nat) (text : BlockText) (cursor : Cursor) :
    Nat → Except Problem (BlockText × Cursor)
  | 0 => .ok (text, cursor)
  | fuel + 1 =>
    match cursor.rest with
    | [] => .ok (text, cursor)
    | c :: _ =>
      if cursor.place.column != indent then .ok (text, cursor)
      else do
        let line := cursor.rest.takeWhile (!isBreak ·)
        let rest := cursor.rest.dropWhile (!isBreak ·)
        let place := cursor.place.forward line.length
        let reversed := line.reverse ++ text.join isLiteral (isBlank c)
        let (breaks, _, next) ← match rest with
          | [] => .ok ([], 0, ⟨place, []⟩)
          | _ :: behind => blockGap (some indent) 0 [] place.nextLine behind
        blockLines isLiteral indent ⟨reversed, rest.head?, breaks, isBlank c⟩ next fuel

/-- Reads a block scalar behind its indicator, inside of a block at column `parent`. -/
def blockScalar (isLiteral : Bool) (parent : Int) (cursor : Cursor) :
    Except Problem (String × Cursor) := do
  let (chomping, given?, behind) ← blockHeader cursor.rest
  let comment := behind.dropWhile isBlank
  let lineEnd := if comment.head? == some '#' then comment.dropWhile (!isBreak ·) else comment
  let place := cursor.place.forward (cursor.rest.length - lineEnd.length)
  let start : Cursor ← match lineEnd with
    | [] => .ok ⟨place, []⟩
    | c :: rest => if isBreak c then .ok ⟨place.nextLine, rest⟩ else .error .invalidBlockHeader
  let given? := given?.map fun given => (max parent 0).toNat + given
  let (breaks, widest, content) ← blockGap given? 0 [] start.place start.rest
  let indent := given?.getD (max widest (max (parent + 1).toNat 1))
  let (text, next) ←
    blockLines isLiteral indent ⟨[], none, breaks, false⟩ content content.rest.length
  let tail := match chomping with
    | .strip => []
    | .clip => text.lastBreak.toList
    | .keep => text.breaks ++ text.lastBreak.toList
  return (String.ofList (tail ++ text.reversed).reverse, next)

end Conventions.Yaml
