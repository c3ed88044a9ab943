import Conventions.Json.Marked
import Conventions.Json.Number

/-!
# From JSON text to marked documents

Reading never fails: what is wrong with a text becomes part of its document. The
fuel of the mutual functions is twice the length of the text: two calls in a row use
up at least one character.
-/

namespace Conventions.Json

/-- The remaining text and its place. -/
structure Cursor where
  rest : List Char
  mark : Mark

namespace Cursor

/-- The place behind the next byte. -/
def peek (cursor : Cursor) : Mark := cursor.mark.peek cursor.rest

/-- Passes over one character. -/
def drop (cursor : Cursor) : Cursor :=
  match cursor.rest with
  | [] => cursor
  | c :: rest => ⟨rest, cursor.mark.after c⟩

/-- Passes over spaces, tabs and line ends from a place on. -/
def skipBlanksFrom (mark : Mark) : List Char → Cursor
  | [] => ⟨[], mark⟩
  | c :: rest =>
    if c = ' ' ∨ c = '\n' ∨ c = '\t' ∨ c = '\r' then skipBlanksFrom (mark.after c) rest
    else ⟨c :: rest, mark⟩

/-- Passes over spaces, tabs and line ends. -/
def skipBlanks (cursor : Cursor) : Cursor := skipBlanksFrom cursor.mark cursor.rest

end Cursor

/-- The value of a hexadecimal digit. -/
def hexValue? (c : Char) : Option Nat :=
  if '0' ≤ c && c ≤ '9' then some (c.toNat - '0'.toNat)
  else if 'a' ≤ c && c ≤ 'f' then some (c.toNat - 'a'.toNat + 10)
  else if 'A' ≤ c && c ≤ 'F' then some (c.toNat - 'A'.toNat + 10)
  else none

/-- The value of four hexadecimal digits. -/
def hexValue4? (a b c d : Char) : Option Nat := do
  return ((← hexValue? a) * 16 + (← hexValue? b)) * 256 + (← hexValue? c) * 16 + (← hexValue? d)

/-- The character of a one-letter escape. -/
def simpleEscape? (c : Char) : Option Char :=
  if c = '"' ∨ c = '\\' ∨ c = '/' then some c
  else if c = 'b' then some (Char.ofNat 8)
  else if c = 'f' then some (Char.ofNat 12)
  else if c = 'n' then some '\n'
  else if c = 'r' then some '\r'
  else if c = 't' then some '\t'
  else none

/-- A string up to its closing quote, or the point where it breaks off. -/
inductive StringScan where
  | closed (value : Except Fault String) (after : Cursor)
  | broken (fault : Break)

/-- What has been read of a string: its characters, last one first, the first fault
that only a reader of the string reports, and the leading surrogate that waits
for its partner. -/
structure StringSoFar where
  chars : List Char
  fault : Option Fault
  leading : Option Nat

namespace StringSoFar

/-- Adds a character. -/
def push (soFar : StringSoFar) (c : Char) : StringSoFar :=
  { soFar with chars := c :: soFar.chars }

/-- Records a fault, unless there is one already. -/
def blame (soFar : StringSoFar) (cause : Cause) (mark : Mark) : StringSoFar :=
  { soFar with fault := soFar.fault.or (some ⟨cause, mark⟩), leading := none }

/-- The string breaks off: a reader reports its first fault. -/
def stop (soFar : StringSoFar) (fault : Break) : StringScan :=
  .broken { fault with read := soFar.fault.getD fault.read }

/-- Adds a unit of sixteen bits that was written as an escape which ends at `mark`. -/
def pushUnit (soFar : StringSoFar) (unit : Nat) (mark : Mark) : StringSoFar :=
  match soFar.leading with
  | some high =>
    if 0xDC00 ≤ unit ∧ unit ≤ 0xDFFF then
      { soFar with
        chars := Char.ofNat ((high - 0xD800) * 1024 + (unit - 0xDC00) + 0x10000) :: soFar.chars
        leading := none }
    else soFar.blame .loneSurrogate mark
  | none =>
    if 0xDC00 ≤ unit ∧ unit ≤ 0xDFFF then soFar.blame .loneSurrogate mark
    else if 0xD800 ≤ unit ∧ unit ≤ 0xDBFF then
      if soFar.fault.isSome then soFar else { soFar with leading := some unit }
    else soFar.push (Char.ofNat unit)

/-- Before anything but the escape of another unit, a leading surrogate is at fault. -/
def settle (soFar : StringSoFar) (mark : Mark) : StringSoFar :=
  if soFar.leading.isSome then soFar.blame .unpairedSurrogate mark else soFar

end StringSoFar

/-- The string that starts here, behind its opening quote. -/
def scanString (soFar : StringSoFar) (mark : Mark) : List Char → StringScan
  | [] => soFar.stop (.at .endInString mark)
  | c :: rest =>
    if c = '\\' then
      match rest with
      | [] => soFar.stop (.at .endInString (mark.after c))
      | e :: rest =>
        let escapeMark := mark.after c
        if e = 'u' then
          let hexMark := escapeMark.after e
          match rest with
          | a :: b :: c :: d :: rest =>
            match hexValue4? a b c d with
            | some unit =>
              let stop := hexMark.afterAll [a, b, c, d]
              scanString (soFar.pushUnit unit stop) stop rest
            | none =>
              soFar.stop (.at .invalidEscape (hexMark.afterBytes 4 (a :: b :: c :: d :: rest)))
          | short =>
            if 4 ≤ (short.map (·.utf8Size)).sum then
              soFar.stop (.at .invalidEscape (hexMark.afterBytes 4 short))
            else soFar.stop (.at .endInString (hexMark.afterAll short))
        else
          let soFar := soFar.settle (escapeMark.peek (e :: rest))
          match simpleEscape? e with
          | some meant => scanString (soFar.push meant) (escapeMark.after e) rest
          | none => soFar.stop (.at .invalidEscape (escapeMark.peek (e :: rest)))
    else
      let soFar := soFar.settle (mark.peek (c :: rest))
      if c = '"' then
        .closed
          (match soFar.fault with
            | some fault => .error fault
            | none => .ok (String.ofList soFar.chars.reverse))
          ⟨rest, mark.after c⟩
      else if c.toNat < 32 then
        soFar.stop ⟨⟨.controlCharacter, mark.peek (c :: rest)⟩, ⟨.controlCharacter, mark⟩⟩
      else scanString (soFar.push c) (mark.after c) rest

/-- The string behind an opening quote. -/
def Cursor.string (cursor : Cursor) : StringScan :=
  scanString ⟨[], none, none⟩ cursor.mark cursor.rest

/-- Takes the digits that come next. -/
def Cursor.digits (cursor : Cursor) : List Char × Cursor :=
  let taken := cursor.rest.takeWhile isDigit
  (taken, ⟨cursor.rest.dropWhile isDigit, cursor.mark.afterAll taken⟩)

/-- The exponent behind its letter. -/
def Cursor.exponent (cursor : Cursor) : Except Break (Bool × List Char × Cursor) :=
  let (negative, digitsStart) := match cursor.rest with
    | '-' :: _ => (true, cursor.drop)
    | '+' :: _ => (false, cursor.drop)
    | _ => (false, cursor)
  match digitsStart.digits with
  | ([], stopped) =>
    if stopped.rest.isEmpty then .error (.either .endInValue .invalidNumber stopped.mark)
    else .error (.at .invalidNumber stopped.peek)
  | (digits, after) => .ok (negative, digits, after)

/-- The fraction behind its point. -/
def Cursor.fraction (cursor : Cursor) : Except Break (List Char × Cursor) :=
  match cursor.digits with
  | ([], stopped) =>
    if stopped.rest.isEmpty then .error (.either .endInValue .invalidNumber stopped.mark)
    else .error (.at .invalidNumber stopped.peek)
  | (digits, after) => .ok (digits, after)

/-- The digits before the point: a first zero stands alone. -/
def Cursor.wholeDigits (cursor : Cursor) : Except Break (List Char × Cursor) :=
  match cursor.digits with
  | ([], stopped) =>
    if stopped.rest.isEmpty then .error (.either .endInValue .invalidNumber stopped.mark)
    else .error (.at .invalidNumber stopped.peek)
  | ('0' :: more, after) =>
    if more.isEmpty then .ok (['0'], after) else .error (.at .invalidNumber cursor.drop.peek)
  | (digits, after) => .ok (digits, after)

/-- The numeral behind its sign, with the place at which its exponent's digits start. -/
def Cursor.numeral (negative : Bool) (cursor : Cursor) :
    Except Break (Numeral × Mark × Cursor) := do
  let (whole, cursor) ← cursor.wholeDigits
  let (fraction, cursor) ← match cursor.rest with
    | '.' :: _ => cursor.drop.fraction
    | _ => pure ([], cursor)
  let withExponent (start : Cursor) : Except Break (Numeral × Mark × Cursor) := do
    let (isNegative, digits, after) ← start.exponent
    pure (⟨negative, whole, fraction, some (isNegative, digits)⟩,
      ⟨after.mark.line, after.mark.column - digits.length⟩, after)
  match cursor.rest with
  | 'e' :: _ => withExponent cursor.drop
  | 'E' :: _ => withExponent cursor.drop
  | _ => pure (⟨negative, whole, fraction, none⟩, cursor.mark, cursor)

/-- The number behind its sign. -/
def Cursor.number (negative : Bool) (cursor : Cursor) : Node × Cursor :=
  match cursor.numeral negative with
  | .error fault => (.broken fault, cursor)
  | .ok (numeral, digitsMark, after) =>
    let value := match numeral.value with
      | .ok value => .ok value
      | .error read =>
        .error ⟨.numberOutOfRange, ⟨digitsMark.line, digitsMark.column + read⟩⟩
    (.number value after.mark, after)

/-- The rest of a word whose first letter was read, and the value that it stands for. -/
def Cursor.word (value : Mark → Node) (cursor : Cursor) : List Char → Node × Cursor
  | [] => (value cursor.mark, cursor)
  | expected :: more =>
    match cursor.rest with
    | [] => (.broken (.at .endInValue cursor.mark), cursor)
    | c :: _ =>
      if c = expected then cursor.drop.word value more
      else (.broken (.at .expectedWord cursor.peek), cursor)

/-- Where a fault is reported for which only the end of the enclosing object is
known: behind the object if it ends here, and here otherwise. -/
def Cursor.objectMark (cursor : Cursor) : Mark :=
  match cursor.skipBlanks with
  | ⟨'}' :: _, mark⟩ => mark.after '}'
  | ⟨_, mark⟩ => mark

mutual

/-- The value that comes next. -/
def scanNode (fuel : Nat) (cursor : Cursor) : Node × Cursor :=
  match fuel with
  | 0 => (.broken (.at .endInValue cursor.mark), cursor)
  | fuel + 1 =>
    let cursor := cursor.skipBlanks
    match cursor.rest with
    | [] => (.broken (.at .endInValue cursor.mark), cursor)
    | c :: _ =>
      if c = 'n' then cursor.drop.word .null ['u', 'l', 'l']
      else if c = 't' then cursor.drop.word (.bool true) ['r', 'u', 'e']
      else if c = 'f' then cursor.drop.word (.bool false) ['a', 'l', 's', 'e']
      else if c = '-' then cursor.drop.number true
      else if isDigit c then cursor.number false
      else if c = '"' then
        match cursor.drop.string with
        | .closed value after => (.string value after.mark, after)
        | .broken fault => (.broken fault, cursor)
      else if c = '[' then
        let (items, after) := scanItems fuel true cursor.drop
        (.array cursor.mark items, after)
      else if c = '{' then
        let (fields, after) := scanFields fuel true cursor.drop
        (.object cursor.mark fields, after)
      else (.broken (.at .expectedValue cursor.peek), cursor)

/-- The items that come next, up to the end of their list. -/
def scanItems (fuel : Nat) (isFirst : Bool) (cursor : Cursor) : Items × Cursor :=
  match fuel with
  | 0 => (.broken (.at .endInList cursor.mark), cursor)
  | fuel + 1 =>
    let cursor := cursor.skipBlanks
    let item (cursor : Cursor) : Items × Cursor :=
      let (value, after) := scanNode fuel cursor
      let (rest, last) := scanItems fuel false after
      (.item cursor.peek value rest, last)
    match cursor.rest with
    | [] => (.broken (.at .endInList cursor.mark), cursor)
    | c :: _ =>
      if c = ']' then (.done, cursor.drop)
      else if isFirst then item cursor
      else if c = ',' then
        let next := cursor.drop.skipBlanks
        match next.rest with
        | [] => (.broken (.at .endInValue next.mark), next)
        | ']' :: _ => (.broken (.either .trailingComma .expectedValue next.peek), next)
        | _ => item next
      else (.broken (.at .expectedListEnd cursor.peek), cursor)

/-- The fields that come next, up to the end of their object. -/
def scanFields (fuel : Nat) (isFirst : Bool) (cursor : Cursor) : Fields × Cursor :=
  match fuel with
  | 0 => (.broken (.at .endInObject cursor.mark), cursor)
  | fuel + 1 =>
    let cursor := cursor.skipBlanks
    let field (start : Cursor) : Fields × Cursor :=
      match start.drop.string with
      | .broken fault => (.broken fault, start)
      | .closed key afterKey =>
        let colon := afterKey.skipBlanks
        let (value, after) : Node × Cursor := match colon.rest with
          | [] => (.broken (.at .endInObject colon.mark), colon)
          | ':' :: _ => scanNode fuel colon.drop
          | _ => (.broken (.at .expectedColon colon.peek), colon)
        let (rest, last) := scanFields fuel false after
        (.field key afterKey.objectMark value after.objectMark rest, last)
    match cursor.rest with
    | [] => (.broken (.at .endInObject cursor.mark), cursor)
    | c :: _ =>
      if c = '}' then (.done, cursor.drop)
      else if isFirst then
        if c = '"' then field cursor else (.broken (.at .keyNotString cursor.peek), cursor)
      else if c = ',' then
        let next := cursor.drop.skipBlanks
        match next.rest with
        | [] => (.broken (.either .endInValue .endInObject next.mark), next)
        | '"' :: _ => field next
        | '}' :: _ => (.broken (.either .trailingComma .keyNotString next.peek), next)
        | _ => (.broken (.at .keyNotString next.peek), next)
      else (.broken (.at .expectedObjectEnd cursor.peek), cursor)

end

/-- The document of a text. -/
def Document.ofText (text : String) : Document :=
  let chars := text.toList
  let (root, after) := scanNode (2 * chars.length + 2) ⟨chars, .start⟩
  let trailing := after.skipBlanks
  ⟨root, if trailing.rest.isEmpty then none else some trailing.peek⟩

end Conventions.Json
