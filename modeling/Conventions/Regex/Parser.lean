import Conventions.Regex.Property

/-!
# Reading regular expressions

The fuel of the mutual readers is the length of the text; each of their calls is
followed by one on a shorter rest. Flags hold up to the end of the group in which
they are set.
-/

namespace Conventions.Regex

/-- What is wrong with an expression. -/
inductive Problem where
  | unclosedGroup
  | unopenedGroup
  | unclosedClass
  | invalidClassRange
  | invalidClassItem
  | missingOperand
  | invalidCount
  | invalidEscape
  | invalidCodePoint
  | unknownProperty
  | invalidGroupName
  | duplicateGroupName
  | invalidFlags
  | lookAround
  | notUnicode
  | tooDeep
  | tooLarge
  deriving DecidableEq, Repr

/-- The wording of a problem. -/
def Problem.text : Problem → String
  | tooLarge => "Compiled regex exceeds size limit of 10485760 bytes."
  | unclosedGroup => "regex parse error: unclosed group"
  | unopenedGroup => "regex parse error: unopened group"
  | unclosedClass => "regex parse error: unclosed character class"
  | invalidClassRange => "regex parse error: invalid character class range"
  | invalidClassItem => "regex parse error: invalid item of a character class"
  | missingOperand => "regex parse error: repetition operator missing expression"
  | invalidCount => "regex parse error: invalid repetition count"
  | invalidEscape => "regex parse error: unrecognized escape sequence"
  | invalidCodePoint => "regex parse error: invalid code point"
  | unknownProperty => "regex parse error: Unicode property not found"
  | invalidGroupName => "regex parse error: invalid capture group name"
  | duplicateGroupName => "regex parse error: duplicate capture group name"
  | invalidFlags => "regex parse error: invalid flags"
  | lookAround => "regex parse error: look-around is not supported"
  | notUnicode => "regex parse error: pattern can match invalid UTF-8"
  | tooDeep => "regex parse error: exceeds the nest limit"

/-- The flags that matter for whether there is a match. -/
structure Flags where
  ignoreCase : Bool
  multiLine : Bool
  dotAll : Bool
  crlf : Bool
  unicode : Bool
  /-- Blanks and comments are passed over. -/
  extended : Bool
  deriving DecidableEq, Repr

/-- The flags at the start of an expression. -/
def Flags.initial : Flags := ⟨false, false, false, false, true, false⟩

/-- The state of the reader. -/
structure ReaderState where
  rest : List Char
  flags : Flags
  /-- The names of groups so far. -/
  names : List String

/-- A reader of a part of an expression. -/
abbrev Reader := StateT ReaderState (Except Problem)

/-- An expression with the height of its syntax tree. -/
structure Parsed where
  regex : Regex
  height : Nat

namespace Reader

/-- The next character. -/
def peek? : Reader (Option Char) := do return (← get).rest.head?

/-- Passes over a number of characters. -/
def drop (count : Nat) : Reader Unit :=
  modify fun state => { state with rest := state.rest.drop count }

/-- Whether the rest starts with a text. -/
def startsWith (text : String) : Reader Bool := do
  return text.toList.isPrefixOf (← get).rest

/-- The rest behind blanks and comments. -/
def behindBlanks (fuel : Nat) (text : List Char) : List Char :=
  match fuel with
  | 0 => text
  | fuel + 1 =>
    match text with
    | [] => []
    | c :: rest =>
      if Text.isBlank c then behindBlanks fuel rest
      else if c = '#' then behindBlanks fuel ((rest.dropWhile (· != '\n')).drop 1)
      else text

/-- Passes over blanks and comments if the flags say so. -/
def skipBlanks : Reader Unit :=
  modify fun state =>
    if state.flags.extended then
      { state with rest := behindBlanks state.rest.length state.rest } else state

/-- Passes over one character and the blanks behind it. -/
def dropAndSkip : Reader Unit := do
  drop 1
  skipBlanks

/-- The next character behind blanks, without passing over them. -/
def peekBehind? (count : Nat) : Reader (Option Char) := do
  let state ← get
  let rest := state.rest.drop count
  return (if state.flags.extended then behindBlanks rest.length rest else rest).head?

end Reader

open Reader

/-- The value of a hexadecimal digit. -/
def hexValue? (c : Char) : Option Nat :=
  if '0' ≤ c && c ≤ '9' then some (c.toNat - '0'.toNat)
  else if 'a' ≤ c && c ≤ 'f' then some (c.toNat - 'a'.toNat + 10)
  else if 'A' ≤ c && c ≤ 'F' then some (c.toNat - 'A'.toNat + 10)
  else none

/-- The character with a code point given in hexadecimal digits. -/
def codePoint (digits : List Char) : Except Problem Char := do
  let value ← digits.foldlM (fun value c =>
    match hexValue? c with
    | some digit => Except.ok (16 * value + digit)
    | none => .error .invalidCodePoint) 0
  if digits.isEmpty || 0x10FFFF < value || (0xD800 ≤ value && value ≤ 0xDFFF) then
    throw .invalidCodePoint
  return Char.ofNat value

/-- An escape: a character, with the mark that it was given by two hexadecimal
digits, a set, or an assertion. -/
inductive Primitive where
  | char (c : Char) (isByte : Bool)
  | set (set : CharSet)
  | look (assertion : Assertion)

/-- Characters that stand for themselves behind a backslash: all of ASCII but letters,
digits and angle brackets. -/
def standsForItself (c : Char) : Bool :=
  c.toNat < 128 && !c.isAlphanum && c != '<' && c != '>'

/-- Reads the digits of a code point behind the letter that announces them. -/
def readCodePoint (count : Nat) (isByteLetter : Bool) : Reader Primitive := do
  skipBlanks
  match ← peek? with
  | none => throw .invalidCodePoint
  | some '{' =>
    drop 1
    let state ← get
    let digits := state.rest.takeWhile (· != '}')
    if digits.length = state.rest.length then throw .invalidCodePoint
    drop (digits.length + 1)
    let digits := if state.flags.extended then digits.filter (!Text.isBlank ·) else digits
    match codePoint digits with
    | .ok c => return .char c false
    | .error problem => throw problem
  | some _ =>
    let digits := (← get).rest.take count
    if digits.length < count then throw .invalidCodePoint
    drop count
    match codePoint digits with
    | .ok c => return .char c isByteLetter
    | .error problem => throw problem

/-- The set that a property's text between braces stands for. -/
def property? (text : List Char) : Option CharSet :=
  let value (negated : Bool) (name rest : List Char) : Option CharSet :=
    (valued? (String.ofList name) (String.ofList rest)).map fun set =>
      if negated then .complement set else set
  let name := text.takeWhile fun c => c != '=' && c != ':' && c != '!'
  match text.drop name.length with
  | '!' :: '=' :: rest => value true name rest
  | '=' :: rest => value false name rest
  | ':' :: rest => value false name rest
  | _ => named? (String.ofList text)

/-- The set with the characters that differ only in case, if the flags say so. -/
def folded (flags : Flags) (set : CharSet) : CharSet :=
  if flags.ignoreCase then .anyCase set else set

/-- The complement of a set if wanted. In the mode of bytes it would contain parts of
characters. -/
def negateIf (flags : Flags) (negated : Bool) (set : CharSet) : Except Problem CharSet :=
  if !negated then .ok set
  else if flags.unicode then .ok (.complement set)
  else .error .notUnicode

/-- Reads a named property behind its letter. -/
def readProperty (negated : Bool) : Reader Primitive := do
  skipBlanks
  let flags := (← get).flags
  let set ← match ← peek? with
    | none => throw .invalidEscape
    | some '{' => do
      drop 1
      let rest := (← get).rest
      let text := rest.takeWhile (· != '}')
      if text.length = rest.length then throw .invalidEscape
      drop (text.length + 1)
      pure (property? text)
    | some c => do
      if c = '\\' then throw .unknownProperty
      drop 1
      pure (category? (plainName (String.singleton c)))
  if !flags.unicode then throw .notUnicode
  match set with
  | none => throw .unknownProperty
  | some set => return .set (if negated then .complement (folded flags set) else folded flags set)

/-- The characters of words under some flags. -/
def wordSet (flags : Flags) : CharSet :=
  if flags.unicode then .wordChars else .asciiWordChars

/-- Reads the text between braces behind a word boundary, which tells its kind; a brace
that starts a repetition is left alone. -/
def readBoundary : Reader Primitive := do
  let word := wordSet (← get).flags
  if (← peek?) != some '{' then return .look (.wordBoundary word)
  match ← peekBehind? 1 with
  | none => throw .invalidCount
  | some c =>
    if !(c.isAlpha || c == '-') then return .look (.wordBoundary word)
    drop 1
    let rest := (← get).rest
    let name := rest.takeWhile (· != '}')
    if name.length = rest.length then throw .invalidEscape
    drop (name.length + 1)
    match String.ofList name with
    | "start" => return .look (.wordStart word)
    | "end" => return .look (.wordEnd word)
    | "start-half" => return .look (.wordStartHalf word)
    | "end-half" => return .look (.wordEndHalf word)
    | _ => throw .invalidEscape

/-- Reads what follows a backslash. -/
def readEscape : Reader Primitive := do
  drop 1
  let flags := (← get).flags
  match ← peek? with
  | none => throw .invalidEscape
  | some c =>
    drop 1
    let class' (negated : Bool) (unicode ascii : CharSet) : Reader Primitive :=
      match negateIf flags negated (if flags.unicode then unicode else ascii) with
      | .ok set => return .set set
      | .error problem => throw problem
    let digit := CharSet.table Text.decimalDigits
    let asciiBlank : CharSet :=
      .unions [.range (Char.ofNat 9) (Char.ofNat 13), .single ' ']
    if c.isDigit then throw .invalidEscape
    else if c = 'x' then readCodePoint 2 true
    else if c = 'u' then readCodePoint 4 false
    else if c = 'U' then readCodePoint 8 false
    else if c = 'p' then readProperty false
    else if c = 'P' then readProperty true
    else if c = 'd' then class' false digit (.range '0' '9')
    else if c = 'D' then class' true digit (.range '0' '9')
    else if c = 's' then class' false .blanks asciiBlank
    else if c = 'S' then class' true .blanks asciiBlank
    else if c = 'w' then class' false .wordChars .asciiWordChars
    else if c = 'W' then class' true .wordChars .asciiWordChars
    else if standsForItself c then return .char c false
    else if c = 'a' then return .char (Char.ofNat 7) false
    else if c = 'f' then return .char (Char.ofNat 12) false
    else if c = 't' then return .char '\t' false
    else if c = 'n' then return .char '\n' false
    else if c = 'r' then return .char '\r' false
    else if c = 'v' then return .char (Char.ofNat 11) false
    else if c = 'A' then return .look .textStart
    else if c = 'z' then return .look .textEnd
    else if c = 'b' then readBoundary
    else if c = 'B' then return .look (.noWordBoundary (wordSet flags))
    else if c = '<' then return .look (.wordStart (wordSet flags))
    else if c = '>' then return .look (.wordEnd (wordSet flags))
    else throw .invalidEscape

/-- The ASCII class with a name between colons. -/
def asciiClass? (name : String) : Option CharSet :=
  let ascii (low high : Nat) : CharSet := .range (Char.ofNat low) (Char.ofNat high)
  let letters : CharSet := .union (.range 'a' 'z') (.range 'A' 'Z')
  match name with
  | "alnum" => some (.union letters (.range '0' '9'))
  | "alpha" => some letters
  | "ascii" => some (ascii 0 127)
  | "blank" => some (.union (.single '\t') (.single ' '))
  | "cntrl" => some (.union (ascii 0 31) (ascii 127 127))
  | "digit" => some (.range '0' '9')
  | "graph" => some (ascii 33 126)
  | "lower" => some (.range 'a' 'z')
  | "print" => some (ascii 32 126)
  | "punct" => some (.unions [ascii 33 47, ascii 58 64, ascii 91 96, ascii 123 126])
  | "space" => some (.union (ascii 9 13) (.single ' '))
  | "upper" => some (.range 'A' 'Z')
  | "word" => some .asciiWordChars
  | "xdigit" => some (.unions [.range '0' '9', .range 'a' 'f', .range 'A' 'F'])
  | _ => none

/-- An ASCII class at the start of a text, and how many characters it takes. -/
def asciiClassAt? (text : List Char) : Option (Bool × CharSet × Nat) :=
  match text with
  | '[' :: ':' :: rest =>
    let (negated, rest, size) := match rest with
      | '^' :: rest => (true, rest, 3)
      | rest => (false, rest, 2)
    let name := rest.takeWhile (· != ':')
    match rest.drop name.length with
    | ':' :: ']' :: _ =>
      (asciiClass? (String.ofList name)).map fun set => (negated, set, size + name.length + 2)
    | _ => none
  | _ => none

/-- A character of a class or an end of a range. In the mode of bytes only ASCII is
allowed. -/
def classChar (flags : Flags) (c : Char) : Except Problem Char :=
  if !flags.unicode && 127 < c.toNat then .error .notUnicode else .ok c

/-- Reads one character or escape of a class. -/
def readClassPrimitive : Reader Primitive := do
  match ← peek? with
  | none => throw .unclosedClass
  | some '\\' => readEscape
  | some c =>
    drop 1
    return .char c false

/-- Reads one character, range or escape of a class. -/
def readClassItem : Reader CharSet := do
  let flags := (← get).flags
  let first ← readClassPrimitive
  skipBlanks
  let isRange ← match ← peek? with
    | none => throw .unclosedClass
    | some '-' => do
      let next ← peekBehind? 1
      pure (next != some ']' && next != some '-')
    | some _ => pure false
  if isRange then
    dropAndSkip
    if (← peek?).isNone then throw .unclosedClass
    let second ← readClassPrimitive
    match first, second with
    | .char low _, .char high _ =>
      match classChar flags low, classChar flags high with
      | .ok low, .ok high =>
        if high < low then throw .invalidClassRange
        return .range low high
      | .error problem, _ | _, .error problem => throw problem
    | _, _ => throw .invalidClassRange
  else
    match first with
    | .char c _ =>
      match classChar flags c with
      | .ok c => return .single c
      | .error problem => throw problem
    | .set set => return set
    | .look _ => throw .invalidClassItem

/-- How a class combines what was read before an operator with what follows it. -/
inductive ClassOperator where
  | both
  | without
  | either

/-- Combines two sets. -/
def ClassOperator.apply (operator : ClassOperator) (a b : CharSet) : CharSet :=
  match operator with
  | both => .both a b
  | without => .without a b
  | either => .union (.without a b) (.without b a)

/-- The union of the items so far, combined with what was read before the last
operator. -/
def closeOperand (flags : Flags) (pending : Option (CharSet × ClassOperator))
    (items : List CharSet) : CharSet :=
  let operand := CharSet.unions items.reverse
  match pending with
  | none => operand
  | some (before, operator) => operator.apply (folded flags before) (folded flags operand)

/-- Reads hyphens at the start of a class, which stand for themselves. -/
def readHyphens (items : List CharSet) : Nat → Reader (List CharSet)
  | 0 => return items
  | fuel + 1 => do
    match ← peek? with
    | none => throw .unclosedClass
    | some '-' =>
      dropAndSkip
      readHyphens (.single '-' :: items) fuel
    | some _ => return items

mutual

/-- Reads a class behind its opening bracket; the set, and the height of its syntax. -/
def readClass (fuel : Nat) : Reader (CharSet × Nat) :=
  match fuel with
  | 0 => throw .unclosedClass
  | fuel + 1 => do
    skipBlanks
    let negated ← match ← peek? with
      | none => throw .unclosedClass
      | some '^' => do
        dropAndSkip
        pure true
      | some _ => pure false
    let items ← readHyphens [] ((← get).rest.length + 1)
    let items ← match ← peek? with
      | some ']' =>
        if items.isEmpty then do
          dropAndSkip
          if (← peek?).isNone then throw .unclosedClass
          pure [.single ']']
        else pure items
      | _ => pure items
    let (set, height) ← readClassBody fuel none items 0
    let flags := (← get).flags
    match negateIf flags negated (folded flags set) with
    | .ok set => return (set, height + 1)
    | .error problem => throw problem

/-- Reads the items of a class up to its closing bracket. -/
def readClassBody (fuel : Nat) (pending : Option (CharSet × ClassOperator))
    (items : List CharSet) (height : Nat) : Reader (CharSet × Nat) :=
  match fuel with
  | 0 => throw .unclosedClass
  | fuel + 1 => do
    skipBlanks
    let flags := (← get).flags
    let operatorAt (operator : ClassOperator) : Reader (CharSet × Nat) := do
      drop 2
      readClassBody fuel (some (closeOperand flags pending items, operator)) [] (height + 1)
    match ← peek? with
    | none => throw .unclosedClass
    | some '[' =>
      match asciiClassAt? (← get).rest with
      | some (negated, set, size) =>
        drop size
        match negateIf flags negated (folded flags set) with
        | .ok set => readClassBody fuel pending (set :: items) height
        | .error problem => throw problem
      | none =>
        drop 1
        let (set, inner) ← readClass fuel
        readClassBody fuel pending (set :: items) (max height inner)
    | some ']' =>
      drop 1
      return (closeOperand flags pending items, height)
    | some c =>
      if ← startsWith "&&" then operatorAt .both
      else if ← startsWith "--" then operatorAt .without
      else if ← startsWith "~~" then operatorAt .either
      else if c = ']' then throw .unclosedClass
      else
        let item ← readClassItem
        readClassBody fuel pending (item :: items) height

end

/-- Reads a whole number. -/
def readCount : Reader (Option Nat) := do
  skipBlanks
  let digits := (← get).rest.takeWhile Char.isDigit
  drop digits.length
  skipBlanks
  let value := digits.foldl (fun value c => 10 * value + (c.toNat - '0'.toNat)) 0
  if digits.isEmpty then return none
  else if UInt32.size ≤ value then throw .invalidCount
  else return some value

/-- Reads the bounds of a repetition behind the opening brace. -/
def readBounds : Reader (Nat × Option Nat) := do
  dropAndSkip
  if (← peek?).isNone then throw .invalidCount
  let least ← readCount
  match ← peek? with
  | none => throw .invalidCount
  | some ',' =>
    dropAndSkip
    let atEnd ← peek?
    if atEnd.isNone then throw .invalidCount
    match least with
    | none => throw .invalidCount
    | some least =>
      if atEnd = some '}' then
        drop 1
        return (least, none)
      else
        match ← readCount with
        | none => throw .invalidCount
        | some most =>
          if (← peek?) != some '}' then throw .invalidCount
          drop 1
          if most < least then throw .invalidCount
          return (least, some most)
  | some c =>
    if c != '}' then throw .invalidCount
    drop 1
    match least with
    | none => throw .invalidCount
    | some least => return (least, some least)

/-- Reads the flags of a group up to the colon or the parenthesis behind them, which is
returned with the new flags and whether there were any. -/
def readFlags (flags : Flags) (negated : Bool) (seen : List Char) :
    Nat → Reader (Flags × Bool × Char)
  | 0 => throw .invalidFlags
  | fuel + 1 => do
    match ← peek? with
    | none => throw .invalidFlags
    | some c =>
      drop 1
      if c = ':' ∨ c = ')' then
        if seen.head? = some '-' then throw .invalidFlags
        return (flags, !seen.isEmpty, c)
      else if seen.contains c then throw .invalidFlags
      else if c = '-' then readFlags flags true (c :: seen) fuel
      else
        let on := !negated
        let next := fun flags => readFlags flags negated (c :: seen) fuel
        match c with
        | 'i' => next { flags with ignoreCase := on }
        | 'm' => next { flags with multiLine := on }
        | 's' => next { flags with dotAll := on }
        | 'R' => next { flags with crlf := on }
        | 'u' => next { flags with unicode := on }
        | 'x' => next { flags with extended := on }
        | 'U' => next flags
        | _ => throw .invalidFlags

/-- Whether a character may stand in the name of a group. -/
def isNameChar (isFirst : Bool) (c : Char) : Bool :=
  c == '_' || (tables [Text.lowerLetters, Text.upperLetters, Text.otherLetters,
    Text.titleLetters, Text.modifierLetters, Text.letterNumbers]).contains c ||
    (!isFirst && (c == '.' || c == '[' || c == ']' ||
      (tables [Text.decimalDigits, Text.otherNumbers]).contains c))

/-- Reads the name of a group up to the angle bracket behind it. -/
def readGroupName : Reader Unit := do
  let state ← get
  let name := state.rest.takeWhile (· != '>')
  if name.length = state.rest.length then throw .invalidGroupName
  match name with
  | [] => throw .invalidGroupName
  | first :: more =>
    if !isNameChar true first || more.any (!isNameChar false ·) then throw .invalidGroupName
  let name := String.ofList name
  if state.names.contains name then throw .duplicateGroupName
  set { state with rest := state.rest.drop (name.length + 1), names := name :: state.names }

/-- The expression for one character under the current flags. -/
def charRegex (flags : Flags) (c : Char) (isByte : Bool) : Except Problem Regex :=
  if !flags.unicode && isByte && 127 < c.toNat then .error .notUnicode
  else .ok (.one (folded flags (.single c)))

/-- The expression for a dot under the current flags. -/
def dotRegex (flags : Flags) : Except Problem Regex :=
  if !flags.unicode then .error .notUnicode
  else if flags.dotAll then .ok (.one everything)
  else if flags.crlf then .ok (.one (.complement (.union (.single '\n') (.single '\r'))))
  else .ok (.one (.complement (.single '\n')))

/-- Reads a character, a dot, an anchor or an escape. -/
def readPrimitive (c : Char) : Reader Regex := do
  let flags := (← get).flags
  let lift (result : Except Problem Regex) : Reader Regex :=
    match result with
    | .ok regex => return regex
    | .error problem => throw problem
  if c = '\\' then
    match ← readEscape with
    | .char c isByte => lift (charRegex flags c isByte)
    | .set set => return .one set
    | .look assertion => return .look assertion
  else
    drop 1
    if c = '.' then lift (dotRegex flags)
    else if c = '^' then
      return .look (if flags.multiLine then .lineStart flags.crlf else .textStart)
    else if c = '$' then
      return .look (if flags.multiLine then .lineEnd flags.crlf else .textEnd)
    else lift (charRegex flags c false)

/-- The expression of items, given last one first; the marks of flags are left out. -/
def joinItems (items : List (Option Parsed)) : Parsed :=
  let parts := items.reverse
  let height := (parts.filterMap id).foldl (fun height part => max height part.height) 0
  ⟨sequence ((parts.filterMap id).map (·.regex)), if parts.length ≤ 1 then height else height + 1⟩

/-- Passes over the mark of a lazy repetition. -/
def skipLazy : Reader Unit := do
  if (← peek?) = some '?' then drop 1

mutual

/-- Reads alternatives up to a closing parenthesis or the end. -/
def readAlternatives (fuel : Nat) (first : Option Parsed) : Reader Parsed :=
  match fuel with
  | 0 => throw .unclosedGroup
  | fuel + 1 => do
    let part ← readSequence fuel []
    let soFar : Parsed := match first with
      | none => part
      | some first => ⟨.alt first.regex part.regex, max first.height (part.height + 1)⟩
    match ← peek? with
    | some '|' =>
      drop 1
      readAlternatives fuel (some soFar)
    | _ => return soFar

/-- Reads items one after the other; `items` are those before, last one first, with
nothing in the place of flags. -/
def readSequence (fuel : Nat) (items : List (Option Parsed)) : Reader Parsed :=
  match fuel with
  | 0 => throw .unclosedGroup
  | fuel + 1 => do
    skipBlanks
    let repeated (least : Nat) (most : Option Nat) : Reader Parsed := do
      match items with
      | some body :: rest =>
        readSequence fuel (some ⟨.times body.regex least most, body.height + 1⟩ :: rest)
      | _ => throw .missingOperand
    let hasOperand := match items with
      | some _ :: _ => true
      | _ => false
    match ← peek? with
    | none | some '|' | some ')' => return joinItems items
    | some c =>
      if c = '(' then
        let item ← readGroup fuel
        readSequence fuel (item :: items)
      else if c = '[' then
        drop 1
        let (set, height) ← readClass ((← get).rest.length + 2)
        readSequence fuel (some ⟨.one set, height⟩ :: items)
      else if c = '?' ∨ c = '*' ∨ c = '+' then
        drop 1
        skipLazy
        if c = '?' then repeated 0 (some 1)
        else if c = '*' then repeated 0 none
        else repeated 1 none
      else if c = '{' then
        if !hasOperand then throw .missingOperand
        let (least, most) ← readBounds
        skipBlanks
        skipLazy
        repeated least most
      else
        let regex ← readPrimitive c
        readSequence fuel (some ⟨regex, 0⟩ :: items)

/-- Reads a group, or flags for the rest of the group around them. -/
def readGroup (fuel : Nat) : Reader (Option Parsed) :=
  match fuel with
  | 0 => throw .unclosedGroup
  | fuel + 1 => do
    drop 1
    skipBlanks
    let outer := (← get).flags
    let body : Reader (Option Parsed) := do
      let inner ← readAlternatives fuel none
      if (← peek?) != some ')' then throw .unclosedGroup
      drop 1
      modify fun state => { state with flags := outer }
      return some ⟨inner.regex, inner.height + 1⟩
    if (← startsWith "?=") || (← startsWith "?!") || (← startsWith "?<=") ||
        (← startsWith "?<!") then throw .lookAround
    else if ← startsWith "?P<" then
      drop 3
      readGroupName
      body
    else if ← startsWith "?<" then
      drop 2
      readGroupName
      body
    else if ← startsWith "?" then
      drop 1
      let (flags, any, stop) ← readFlags outer false [] ((← get).rest.length + 1)
      modify fun state => { state with flags := flags }
      if stop = ')' then
        if !any then throw .missingOperand
        return none
      else body
    else body

end

/-- The bound of the estimated size of an expression. -/
def sizeLimit : Nat := 10485760

/-- The bound of the height of its syntax. -/
def nestLimit : Nat := 250

/-- Reads an expression, however much it takes when it is compiled. -/
def read (text : String) : Except Problem Regex := do
  let chars := text.toList
  let (parsed, state) ← (readAlternatives (4 * chars.length + 4) none).run
    ⟨chars, .initial, []⟩
  if !state.rest.isEmpty then throw .unopenedGroup
  if nestLimit < parsed.height then throw .tooDeep
  return parsed.regex

/-- Reads an expression that is not too large. -/
def parse (text : String) : Except Problem Regex := do
  let regex ← read text
  if sizeLimit < regex.cost then throw .tooLarge
  return regex

/-- Characters that may mean something else than themselves. -/
def metaChars : List Char := "\\.+*?()|[]\x7b\x7d^$#&-~".toList

/-- Whether a character may mean something else than itself. -/
def isMeta (c : Char) : Bool := metaChars.contains c

/-- A character as it is written to stand for itself. -/
def escapeChar (c : Char) : List Char := if isMeta c then ['\\', c] else [c]

/-- The text of an expression that matches a given text. -/
def escape (text : String) : String := String.ofList (text.toList.flatMap escapeChar)

end Conventions.Regex
