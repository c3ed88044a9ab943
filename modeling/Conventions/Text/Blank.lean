/-!
# Blank characters, lines and words

A text is cut in three ways here: into lines, into words between blanks, and at
one separating character. Blanks are the characters with the Unicode property
White_Space, so a no-break space separates words just as a space does.
-/

namespace Conventions.Text

/-- A character with the property White_Space. -/
def isBlank (c : Char) : Bool :=
  let n := c.toNat
  (9 ≤ n && n ≤ 13) || n == 0x20 || n == 0x85 || n == 0xA0 || n == 0x1680 ||
    (0x2000 ≤ n && n ≤ 0x200A) || n == 0x2028 || n == 0x2029 || n == 0x202F ||
    n == 0x205F || n == 0x3000

/-- The text without its leading blanks. -/
def trimStart (text : List Char) : List Char := text.dropWhile isBlank

/-- The text without its trailing blanks. -/
def trimEnd (text : List Char) : List Char := (text.reverse.dropWhile isBlank).reverse

/-- The text without blanks at either end. -/
def trim (text : List Char) : List Char := trimEnd (trimStart text)

/-- Whether nothing but blanks occurs. -/
def allBlank (text : List Char) : Bool := text.all isBlank

/-- The pieces between the characters that `isEnd` accepts; always at least one. -/
def splitWhere (isEnd : Char → Bool) : List Char → List (List Char)
  | [] => [[]]
  | c :: rest =>
    if isEnd c then [] :: splitWhere isEnd rest
    else match splitWhere isEnd rest with
      | [] => [[c]]
      | piece :: pieces => (c :: piece) :: pieces

/-- The maximal runs without blanks. -/
def words (text : List Char) : List (List Char) :=
  (splitWhere isBlank text).filter (!·.isEmpty)

/-- The lines of a text of which `line` has been read so far, last character first. -/
def linesAfter (line : List Char) : List Char → List (List Char)
  | [] => if line.isEmpty then [] else [line.reverse]
  | c :: rest =>
    if c = '\n' then
      (match line with
        | '\r' :: shorter => shorter.reverse
        | _ => line.reverse) :: linesAfter [] rest
    else linesAfter (c :: line) rest

/-- The lines of a text. A line ends in a line feed, which may follow a carriage
return; a last line need not be ended, and then keeps a carriage return. -/
def lines (text : List Char) : List (List Char) := linesAfter [] text

/-- The text without the occurrences of `pattern`, found from the left and not
overlapping, once `skipped` more characters of one have been passed over. -/
def eraseFrom (pattern : List Char) (skipped : Nat) : List Char → List Char
  | [] => []
  | c :: rest =>
    match skipped with
    | more + 1 => eraseFrom pattern more rest
    | 0 =>
      if !pattern.isEmpty && pattern.isPrefixOf (c :: rest) then
        eraseFrom pattern (pattern.length - 1) rest
      else c :: eraseFrom pattern 0 rest

/-- The text without the occurrences of `pattern`. -/
def erase (pattern text : String) : String :=
  String.ofList (eraseFrom pattern.toList 0 text.toList)

/-- Whether a text starts with another. -/
def startsWith (text start : String) : Bool := start.toList.isPrefixOf text.toList

/-- Whether a text ends with another. -/
def endsWith (text ending : String) : Bool := ending.toList.isSuffixOf text.toList

/-- Pads a text on the right with spaces up to `width` characters. -/
def padRight (width : Nat) (text : String) : String :=
  text ++ String.ofList (List.replicate (width - text.length) ' ')

end Conventions.Text
