import Conventions.Yaml.Plain

/-!
# Styles of scalars

How a text is written as a scalar. It stays plain if it can be read back as the same
text, a text of several lines becomes a literal block, and quotes are left for the
rest: double ones if characters have to be escaped.
-/

namespace Conventions.Yaml

/-- How a scalar is written. -/
inductive Style where
  | plain
  | single
  | double
  | literal
  deriving DecidableEq, Repr

namespace Style

/-- A character that ends a line. -/
def isLineEnd (c : Char) : Bool :=
  c == '\n' || c == '\r' || c.toNat == 0x85 || c.toNat == 0x2028 || c.toNat == 0x2029

/-- Whether a text starts with white space, or is at its end. -/
def atWordEnd : List Char → Bool
  | [] => true
  | c :: _ => c == ' ' || c == '\t' || isLineEnd c

/-- Whether a character can be shown as it is. -/
def isShown (c : Char) : Bool :=
  let n := c.toNat
  n == 10 || (0x20 ≤ n && n ≤ 0x7E) || (0xA0 ≤ n && n ≤ 0xD7FF) ||
    (0xE000 ≤ n && n ≤ 0xFFFD && n != 0xFEFF) || 0x10000 ≤ n

/-- Whether two characters that stand next to each other are of two kinds. -/
def hasAdjacent (first second : Char → Bool) : List Char → Bool
  | c :: d :: rest => (first c && second d) || hasAdjacent first second (d :: rest)
  | _ => false

/-- Whether there is an indicator behind a character of which `afterWord` tells that it is
white space. -/
def hasInnerIndicator (afterWord : Bool) : List Char → Bool
  | [] => false
  | c :: rest =>
    (c == ':' && atWordEnd rest) || (c == '#' && afterWord) ||
      hasInnerIndicator (atWordEnd [c]) rest

/-- Whether a text starts with an indicator. -/
def startsWithIndicator : List Char → Bool
  | [] => false
  | c :: rest =>
    ['#', ',', '[', ']', '{', '}', '&', '*', '!', '|', '>', '\'', '"', '%', '@', '`'].contains c ||
      ((c == '?' || c == ':' || c == '-') && atWordEnd rest)

/-- Whether something in a text would be read as an indicator if it were plain. -/
def hasIndicator (text : List Char) : Bool :=
  ['-', '-', '-'].isPrefixOf text || ['.', '.', '.'].isPrefixOf text ||
    startsWithIndicator text ||
    match text with
    | [] => false
    | c :: rest => hasInnerIndicator (atWordEnd [c]) rest

/-- Whether a text has several lines. -/
def isMultiline (text : List Char) : Bool := text.any isLineEnd

/-- Whether a text has characters that have to be escaped. -/
def needsEscapes (text : List Char) : Bool := text.any (!isShown ·)

/-- Whether a text has a space before a line end. -/
def hasTrailingSpace (text : List Char) : Bool := hasAdjacent (· == ' ') isLineEnd text

/-- Whether a text may stand in single quotes. -/
def allowsSingle (text : List Char) : Bool :=
  !hasTrailingSpace text && !hasAdjacent isLineEnd (· == ' ') text && !needsEscapes text

/-- Whether a text may stay plain. -/
def allowsPlain (text : List Char) : Bool :=
  let isOuter (c : Char) : Bool := c == ' ' || isLineEnd c
  !text.head?.any isOuter && !text.getLast?.any isOuter && allowsSingle text &&
    !isMultiline text && !hasIndicator text

/-- Whether a text may become a block. -/
def allowsBlock (text : List Char) : Bool :=
  !text.isEmpty && text.getLast? != some ' ' && !hasTrailingSpace text && !needsEscapes text

/-- Whether a text would be read as something else than a text if it were plain. -/
def isAmbiguous (text : String) : Bool :=
  match Plain.value? text with
  | some (.string _) => Plain.hasLeadingZero text.toList
  | _ => true

/-- The style of a text. -/
def ofText (text : String) : Style :=
  let chars := text.toList
  if chars.contains '\n' then if allowsBlock chars then literal else double
  else if !isAmbiguous text && allowsPlain chars then plain
  else if allowsSingle chars then single
  else double

/-- Digits of a hexadecimal escape. -/
def escapeDigits (width value : Nat) : List Char :=
  let digits := (Nat.toDigits 16 value).map Char.toUpper
  List.replicate (width - digits.length) '0' ++ digits

/-- A character in double quotes. -/
def doubleChar (c : Char) : List Char :=
  let n := c.toNat
  if c == '"' || c == '\\' then ['\\', c]
  else if isShown c && !isLineEnd c then [c]
  else
    '\\' :: (match n with
      | 0 => ['0']
      | 7 => ['a']
      | 8 => ['b']
      | 9 => ['t']
      | 10 => ['n']
      | 11 => ['v']
      | 12 => ['f']
      | 13 => ['r']
      | 27 => ['e']
      | 0x85 => ['N']
      | 0x2028 => ['L']
      | 0x2029 => ['P']
      | _ =>
        if n ≤ 0xFF then 'x' :: escapeDigits 2 n
        else if n ≤ 0xFFFF then 'u' :: escapeDigits 4 n
        else 'U' :: escapeDigits 8 n)

/-- A text in single quotes; a line that is not the first one is indented. -/
def singleChars (indent : Nat) (afterBreak : Bool) : List Char → List Char
  | [] => if afterBreak then List.replicate indent ' ' else []
  | c :: rest =>
    if isLineEnd c then c :: singleChars indent true rest
    else
      (if afterBreak then List.replicate indent ' ' else []) ++
        (if c == '\'' then ['\'', '\''] else [c]) ++ singleChars indent false rest

/-- The lines of a literal block, each indented unless it is empty. -/
def literalChars (indent : Nat) (afterBreak : Bool) : List Char → List Char
  | [] => []
  | c :: rest =>
    if isLineEnd c then c :: literalChars indent true rest
    else
      (if afterBreak then List.replicate indent ' ' else []) ++
        c :: literalChars indent false rest

/-- What is said about the end of a literal block: nothing if it is one line end. -/
def chompingHint (text : List Char) : List Char :=
  match text.reverse with
  | [] => ['-']
  | [last] => if isLineEnd last then ['+'] else ['-']
  | last :: previous :: _ =>
    if !isLineEnd last then ['-'] else if isLineEnd previous then ['+'] else []

/-- What is said about the indentation of a literal block, if it cannot be seen. -/
def indentHint (text : List Char) : List Char :=
  if text.head?.any fun c => c == ' ' || isLineEnd c then ['2'] else []

/-- The text in a style, with further lines indented. -/
def render (indent : Nat) (text : String) : Style → List Char
  | plain => text.toList
  | single => '\'' :: (singleChars indent false text.toList ++ ['\''])
  | double => '"' :: (text.toList.flatMap doubleChar ++ ['"'])
  | literal =>
    '|' :: (indentHint text.toList ++ chompingHint text.toList ++
      '\n' :: literalChars indent true text.toList)

end Style

end Conventions.Yaml
