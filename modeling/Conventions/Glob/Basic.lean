import Conventions.Text.Blank

/-!
# Glob patterns

A pattern is matched against the bytes of a path. Stars and question marks do not
match separators; a double star that fills a whole component matches any number
of components. A class matches one byte, and may match a separator.

What a token matches is described by the rests it leaves of a text, from the longest
one on. A pattern matches a text if its tokens, one after the other, can leave nothing
of it.
-/

namespace Conventions.Glob

/-- The parts of a pattern. -/
inductive Token where
  | literal (c : Char)
  /-- One byte but a separator. -/
  | any
  /-- Any bytes but separators. -/
  | run
  /-- Leading directories, or none. -/
  | deepStart
  /-- All that is below a directory. -/
  | deepEnd
  /-- Directories between two parts of a path, or none. -/
  | deepMiddle
  /-- One byte of a class, or one that is not in it. -/
  | oneOf (negated : Bool) (ranges : List (Char × Char))
  /-- One of several patterns. -/
  | alternatives (branches : List (List Token))
  deriving Repr, Inhabited

/-- A pattern as the list of its parts. -/
abbrev Pattern := List Token

/-- The separator of path components. -/
def separator : UInt8 := 47

/-- The bytes of a character. -/
def charBytes (c : Char) : List UInt8 := c.toString.toUTF8.toList

/-- What is left of a text behind a start. -/
def afterStart? : List UInt8 → List UInt8 → Option (List UInt8)
  | [], text => some text
  | _ :: _, [] => none
  | a :: start, b :: text => if a = b then afterStart? start text else none

/-- The rests of a text behind bytes of which none is a separator. -/
def withinComponent : List UInt8 → List (List UInt8)
  | [] => [[]]
  | b :: text => (b :: text) :: (if b = separator then [] else withinComponent text)

/-- All rests of a text. -/
def suffixes : List UInt8 → List (List UInt8)
  | [] => [[]]
  | b :: text => (b :: text) :: suffixes text

/-- The rests of a text that follow a separator. -/
def afterSeparators : List UInt8 → List (List UInt8)
  | [] => []
  | b :: text => if b = separator then text :: afterSeparators text else afterSeparators text

/-- Whether a byte lies in the range from the last byte of one character to the first
byte of another, or is one of their bytes. A range of one character holds its
bytes. -/
def rangeContains (range : Char × Char) (b : UInt8) : Bool :=
  let low := charBytes range.1
  if range.1 = range.2 then low.contains b
  else
    let high := charBytes range.2
    low.contains b || high.contains b ||
      (low.getLastD 0 ≤ b && b ≤ high.headD 0)

/-- Two lists of rests of one text, each from the longest one on, as one such list with
each rest once. -/
def mergeRests : List (List UInt8) → List (List UInt8) → List (List UInt8)
  | [], others => others
  | rests, [] => rests
  | a :: as, b :: bs =>
    if b.length < a.length then a :: mergeRests as (b :: bs)
    else if a.length < b.length then b :: mergeRests (a :: as) bs
    else a :: mergeRests as bs
  termination_by rests others => rests.length + others.length

mutual

/-- Whether a pattern has no part that could match anything. -/
def isVoid : List Token → Bool
  | [] => true
  | token :: rest => isVoidToken token && isVoid rest

/-- Whether a part stands for nothing: a choice between void patterns. -/
def isVoidToken : Token → Bool
  | .alternatives branches => areVoid branches
  | _ => false

/-- Whether all patterns are void. -/
def areVoid : List (List Token) → Bool
  | [] => true
  | branch :: rest => isVoid branch && areVoid rest

end

mutual

/-- The rests that one part of a pattern can leave of a text. A void alternative is
left out, unless all are void. -/
def Token.rests : Token → List UInt8 → List (List UInt8)
  | .literal c, text => (afterStart? (charBytes c) text).toList
  | .any, text =>
    match text with
    | [] => []
    | b :: rest => if b = separator then [] else [rest]
  | .run, text => withinComponent text
  | .deepStart, text => text :: afterSeparators text
  | .deepEnd, text =>
    match text with
    | [] => []
    | b :: rest => if b = separator then suffixes rest else []
  | .deepMiddle, text =>
    match text with
    | [] => []
    | b :: rest => if b = separator then rest :: afterSeparators rest else []
  | .oneOf negated ranges, text =>
    match text with
    | [] => []
    | b :: rest => if (ranges.any fun range => rangeContains range b) != negated then [rest] else []
  | .alternatives branches, text =>
    if areVoid branches then [text] else choiceRests branches text

/-- The rests that a pattern can leave of several rests of one text. -/
def rests : List Token → List (List UInt8) → List (List UInt8)
  | [], texts => texts
  | token :: pattern, texts =>
    rests pattern (texts.foldr (fun text found => mergeRests (token.rests text) found) [])

/-- The rests that one of several patterns can leave of a text. -/
def choiceRests : List (List Token) → List UInt8 → List (List UInt8)
  | [], _ => []
  | branch :: more, text =>
    mergeRests (if isVoid branch then [] else rests branch [text]) (choiceRests more text)

end

/-- Whether a pattern matches a whole path. A lone double star matches every path. -/
def isMatch (pattern : Pattern) (path : String) : Bool :=
  match pattern with
  | [.deepStart] => true
  | _ => (rests pattern [path.toUTF8.toList]).any (·.isEmpty)

/-- Whether one of several patterns matches a path. -/
def anyMatch (patterns : List Pattern) (path : String) : Bool :=
  patterns.any fun pattern => isMatch pattern path

end Conventions.Glob
