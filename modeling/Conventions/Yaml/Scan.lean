import Conventions.Yaml.Property

/-!
# Scanning YAML texts

Cuts a text into tokens. Whether a scalar or a flow collection is a key shows only
at the colon behind it, so the scanner remembers where the last key could have
started and puts the mark of the key there afterwards. A key that may be left open
like this stands in one line and has at most 1024 characters.
-/

namespace Conventions.Yaml

/-- Whether a character may occur in a text at all. -/
def isAllowed (c : Char) : Bool :=
  let n := c.toNat
  n == 9 || n == 10 || n == 13 || (0x20 ≤ n && n ≤ 0x7E) || n == 0x85 ||
    (0xA0 ≤ n && n ≤ 0xFFFD) || 0x10000 ≤ n

/-- The text with all line breaks written as line feeds, except for the line and the
paragraph separator. -/
def unifyBreaks : List Char → List Char
  | '\r' :: '\n' :: rest => '\n' :: unifyBreaks rest
  | c :: rest => (if c = '\r' ∨ c.toNat = 0x85 then '\n' else c) :: unifyBreaks rest
  | [] => []

/-- The text that is scanned. -/
def scannedText (text : String) : Except Problem (List Char) :=
  if text.toList.all isAllowed then .ok (unifyBreaks text.toList) else .error .forbiddenCharacter

/-- The mark of an encoding, which may stand at the start of a line. -/
def isByteOrderMark (c : Char) : Bool := c.toNat == 0xFEFF

/-- Where a key may have started. -/
structure KeyStart where
  /-- The number of tokens before it. -/
  position : Nat
  /-- Whether there has to be a key, since the block consists of keys. -/
  isRequired : Bool
  place : Place

/-- The state of the scanner. -/
structure Scanner where
  /-- The tokens so far, last one first. -/
  tokens : List Token
  count : Nat
  /-- The column of the current block, `-1` outside of blocks. -/
  indent : Int
  /-- The columns of the blocks around it. -/
  indents : List Int
  /-- Where a key of the current flow collection, or of the block, may have started. -/
  key : Option KeyStart
  /-- The same for the enclosing flow collections, and for the block around them. -/
  outerKeys : List (Option KeyStart)
  /-- Whether a key may start here. -/
  keyAllowed : Bool
  cursor : Cursor

namespace Scanner

/-- The scanner at the start of a text. -/
def start (text : List Char) : Scanner := ⟨[], 0, -1, [], none, [], true, ⟨⟨0, 0, 0⟩, text⟩⟩

/-- Whether the scanner is inside of a flow collection. -/
def inFlow (scanner : Scanner) : Bool := !scanner.outerKeys.isEmpty

/-- The current column. -/
def column (scanner : Scanner) : Nat := scanner.cursor.place.column

/-- Adds a token. -/
def push (token : Token) (scanner : Scanner) : Scanner :=
  { scanner with tokens := token :: scanner.tokens, count := scanner.count + 1 }

/-- Adds a token behind the first `position` ones. -/
def insertAt (position : Nat) (token : Token) (scanner : Scanner) : Scanner :=
  let behind := scanner.count - position
  { scanner with
    tokens := scanner.tokens.take behind ++ token :: scanner.tokens.drop behind
    count := scanner.count + 1 }

/-- Goes on to another place. -/
def moveTo (cursor : Cursor) (scanner : Scanner) : Scanner := { scanner with cursor }

/-- Goes on to a rest of the text in the same line. -/
def moveToRest (rest : List Char) (scanner : Scanner) : Scanner :=
  scanner.moveTo
    ⟨scanner.cursor.place.forward (scanner.cursor.rest.length - rest.length), rest⟩

/-- Passes over characters of the same line. -/
def skip (count : Nat) (scanner : Scanner) : Scanner :=
  scanner.moveTo ⟨scanner.cursor.place.forward count, scanner.cursor.rest.drop count⟩

/-- Allows a key to start, or not. -/
def allowKey (allowed : Bool) (scanner : Scanner) : Scanner :=
  { scanner with keyAllowed := allowed }

/-- A start of a key, unless it has become too far away. -/
def freshKey (place : Place) (key : Option KeyStart) : Except Problem (Option KeyStart) :=
  match key with
  | none => .ok none
  | some start =>
    if start.place.line < place.line || start.place.index + 1024 < place.index then
      if start.isRequired then .error .missingColon else .ok none
    else .ok (some start)

/-- Forgets the starts of keys that have become too far away. -/
def dropStale (scanner : Scanner) : Except Problem Scanner := do
  let key ← freshKey scanner.cursor.place scanner.key
  let outerKeys ← scanner.outerKeys.mapM (freshKey scanner.cursor.place)
  return { scanner with key, outerKeys }

/-- Forgets where a key may have started; it must not have been required. -/
def forgetKey (scanner : Scanner) : Except Problem Scanner :=
  if scanner.key.any (·.isRequired) then .error .missingColon
  else .ok { scanner with key := none }

/-- Remembers that a key may start here. -/
def rememberKey (scanner : Scanner) : Except Problem Scanner :=
  if !scanner.keyAllowed then .ok scanner
  else do
    let isRequired := !scanner.inFlow && scanner.indent == scanner.column
    let scanner ← scanner.forgetKey
    return { scanner with key := some ⟨scanner.count, isRequired, scanner.cursor.place⟩ }

/-- The number of blocks to the right of a column, and what is left of them. -/
def blocksRightOf (column indent : Int) : List Int → Nat × Int × List Int
  | [] => (0, indent, [])
  | outer :: rest =>
    if column < indent then
      let (closed, indent, rest) := blocksRightOf column outer rest
      (closed + 1, indent, rest)
    else (0, indent, outer :: rest)

/-- Closes the blocks to the right of a column. -/
def closeBlocks (column : Int) (scanner : Scanner) : Scanner :=
  if scanner.inFlow then scanner
  else
    let (closed, indent, indents) := blocksRightOf column scanner.indent scanner.indents
    { scanner with
      tokens := List.replicate closed .blockEnd ++ scanner.tokens
      count := scanner.count + closed
      indent
      indents }

/-- Opens a block at a column behind the first `position` tokens, if the current one is
to the left of it. -/
def openBlock (column position : Nat) (token : Token) (scanner : Scanner) : Scanner :=
  if scanner.inFlow || (column : Int) ≤ scanner.indent then scanner
  else
    { scanner.insertAt position token with
      indent := column
      indents := scanner.indent :: scanner.indents }

/-- Passes over blanks, comments and breaks. A new line outside of flow collections may
start a key; where one may start, tabs are not passed over. A mark of the encoding counts
as a column of its line. -/
def toToken (inFlow keyAllowed inComment : Bool) (place : Place) : List Char → Bool × Cursor
  | [] => (keyAllowed, ⟨place, []⟩)
  | c :: rest =>
    if isBreak c then toToken inFlow (keyAllowed || !inFlow) false place.nextLine rest
    else if inComment then toToken inFlow keyAllowed true place.next rest
    else if place.column == 0 && isByteOrderMark c then
      toToken inFlow keyAllowed false place.next rest
    else if c == ' ' || (c == '\t' && (inFlow || !keyAllowed)) then
      toToken inFlow keyAllowed false place.next rest
    else if c == '#' then toToken inFlow keyAllowed true place.next rest
    else (keyAllowed, ⟨place, c :: rest⟩)

/-- The end of the text. -/
def atEnd (scanner : Scanner) : Except Problem Scanner := do
  return (← (scanner.closeBlocks (-1)).forgetKey).push .streamEnd

/-- Closes all blocks, as directives and markers of documents do. -/
def leaveBlocks (scanner : Scanner) : Except Problem Scanner := do
  return (← (scanner.closeBlocks (-1)).forgetKey).allowKey false

/-- Passes over a line break. -/
def skipBreak (scanner : Scanner) : Scanner :=
  match scanner.cursor.rest with
  | [] => scanner
  | c :: rest =>
    if isBreak c then scanner.moveTo ⟨scanner.cursor.place.nextLine, rest⟩ else scanner

/-- A directive, with the break at the end of its line. -/
def atDirective (scanner : Scanner) : Except Problem Scanner := do
  let scanner ← scanner.leaveBlocks
  let (token, rest) ← directiveToken (scanner.cursor.rest.drop 1)
  return (scanner.moveToRest rest).skipBreak.push token

/-- A marker of documents. -/
def atMarker (token : Token) (scanner : Scanner) : Except Problem Scanner := do
  return ((← scanner.leaveBlocks).skip 3).push token

/-- The start of a flow collection. -/
def atFlowStart (token : Token) (scanner : Scanner) : Except Problem Scanner := do
  let scanner ← scanner.rememberKey
  return ({ scanner with key := none, outerKeys := scanner.key :: scanner.outerKeys
                         keyAllowed := true }.skip 1).push token

/-- The end of a flow collection. -/
def atFlowEnd (token : Token) (scanner : Scanner) : Except Problem Scanner := do
  let scanner ← scanner.forgetKey
  let scanner := match scanner.outerKeys with
    | [] => scanner
    | key :: rest => { scanner with key, outerKeys := rest }
  return ((scanner.allowKey false).skip 1).push token

/-- A comma between entries of a flow collection. -/
def atFlowEntry (scanner : Scanner) : Except Problem Scanner := do
  return (((← scanner.forgetKey).allowKey true).skip 1).push .flowEntry

/-- A hyphen before an entry of a sequence. -/
def atBlockEntry (scanner : Scanner) : Except Problem Scanner := do
  if !scanner.inFlow && !scanner.keyAllowed then throw .misplacedEntry
  let scanner := scanner.openBlock scanner.column scanner.count .blockSequenceStart
  return (((← scanner.forgetKey).allowKey true).skip 1).push .blockEntry

/-- A question mark before a key. -/
def atKey (scanner : Scanner) : Except Problem Scanner := do
  if !scanner.inFlow && !scanner.keyAllowed then throw .misplacedKey
  let scanner := scanner.openBlock scanner.column scanner.count .blockMappingStart
  return (((← scanner.forgetKey).allowKey (!scanner.inFlow)).skip 1).push .key

/-- A colon before a value. The mark of its key goes where the key started; without
one, the colon starts the entry. -/
def atValue (scanner : Scanner) : Except Problem Scanner := do
  match scanner.key with
  | some start =>
    let scanner := scanner.insertAt start.position .key
    let scanner := scanner.openBlock start.place.column start.position .blockMappingStart
    return ({ scanner with key := none, keyAllowed := false }.skip 1).push .value
  | none =>
    if !scanner.inFlow && !scanner.keyAllowed then throw .misplacedValue
    let scanner := scanner.openBlock scanner.column scanner.count .blockMappingStart
    return ((scanner.allowKey (!scanner.inFlow)).skip 1).push .value

/-- An anchor, or an alias for one. -/
def atAnchor (token : String → Token) (scanner : Scanner) : Except Problem Scanner := do
  let scanner := (← scanner.rememberKey).allowKey false
  let (name, rest) ← anchorName (scanner.cursor.rest.drop 1)
  return (scanner.moveToRest rest).push (token name)

/-- A tag. -/
def atTag (scanner : Scanner) : Except Problem Scanner := do
  let scanner := (← scanner.rememberKey).allowKey false
  let (token, rest) ← tagToken scanner.inFlow (scanner.cursor.rest.drop 1)
  return (scanner.moveToRest rest).push token

/-- A block scalar. -/
def atBlockScalar (isLiteral : Bool) (scanner : Scanner) : Except Problem Scanner := do
  let scanner := ((← scanner.forgetKey).allowKey true).skip 1
  let (text, cursor) ← blockScalar isLiteral scanner.indent scanner.cursor
  return (scanner.moveTo cursor).push (.scalar false text)

/-- A quoted scalar. -/
def atQuoted (isSingle : Bool) (scanner : Scanner) : Except Problem Scanner := do
  let scanner := ((← scanner.rememberKey).allowKey false).skip 1
  let (text, cursor) ← quotedFrom isSingle 0 [] .none scanner.cursor.place scanner.cursor.rest
  return (scanner.moveTo cursor).push (.scalar false text)

/-- A plain scalar. -/
def atPlain (scanner : Scanner) : Except Problem Scanner := do
  let scanner := (← scanner.rememberKey).allowKey false
  let (text, endsLine, cursor) ← plainFrom scanner.inFlow (scanner.indent + 1).toNat [] .none
    scanner.cursor.place scanner.cursor.rest
  return ((scanner.moveTo cursor).allowKey endsLine).push (.scalar true text)

/-- Characters that a plain scalar cannot start with. -/
def isIndicator (c : Char) : Bool :=
  ['-', '?', ':', ',', '[', ']', '{', '}', '#', '&', '*', '!', '|', '>', '\'', '"', '%', '@',
    '`'].contains c

/-- Whether a plain scalar can start with a character before a text. -/
def startsPlain (inFlow : Bool) (c : Char) (rest : List Char) : Bool :=
  !(isBlank c || isBreak c || isIndicator c) ||
    (c == '-' && !rest.head?.any isBlank) ||
    (!inFlow && (c == '?' || c == ':') && !endsWord rest)

/-- Reads the token that starts with a character. -/
def tokenAt (c : Char) (rest : List Char) (scanner : Scanner) : Except Problem Scanner :=
  let isAlone := endsWord rest
  if scanner.column == 0 && c == '%' then scanner.atDirective
  else if scanner.column == 0 && startsMarker (c :: rest) then
    scanner.atMarker (if c == '-' then .documentStart else .documentEnd)
  else if c == '[' then scanner.atFlowStart .flowSequenceStart
  else if c == '{' then scanner.atFlowStart .flowMappingStart
  else if c == ']' then scanner.atFlowEnd .flowSequenceEnd
  else if c == '}' then scanner.atFlowEnd .flowMappingEnd
  else if c == ',' then scanner.atFlowEntry
  else if c == '-' && isAlone then scanner.atBlockEntry
  else if c == '?' && (scanner.inFlow || isAlone) then scanner.atKey
  else if c == ':' && (scanner.inFlow || isAlone) then scanner.atValue
  else if c == '*' then scanner.atAnchor .alias
  else if c == '&' then scanner.atAnchor .anchor
  else if c == '!' then scanner.atTag
  else if c == '|' && !scanner.inFlow then scanner.atBlockScalar true
  else if c == '>' && !scanner.inFlow then scanner.atBlockScalar false
  else if c == '\'' then scanner.atQuoted true
  else if c == '"' then scanner.atQuoted false
  else if startsPlain scanner.inFlow c rest then scanner.atPlain
  else .error .unexpectedCharacter

/-- Reads the next token. -/
def next (scanner : Scanner) : Except Problem Scanner := do
  let (keyAllowed, cursor) :=
    toToken scanner.inFlow scanner.keyAllowed false scanner.cursor.place scanner.cursor.rest
  let scanner ← ({ scanner with keyAllowed, cursor } : Scanner).dropStale
  let scanner := scanner.closeBlocks scanner.column
  match scanner.cursor.rest with
  | [] => scanner.atEnd
  | c :: rest => scanner.tokenAt c rest

/-- Reads tokens up to the end of the text, `fuel` of them at most. -/
def run (scanner : Scanner) : Nat → Except Problem (List Token)
  | 0 => .error .unexpectedCharacter
  | fuel + 1 => do
    let scanner ← scanner.next
    match scanner.tokens with
    | .streamEnd :: _ => return scanner.tokens.reverse
    | _ => scanner.run fuel

end Scanner

/-- The tokens of a text. Each but the last takes at least one character. -/
def Token.scan (text : String) : Except Problem (List Token) := do
  let chars ← scannedText text
  (Scanner.start chars).run (chars.length + 1)

end Conventions.Yaml
