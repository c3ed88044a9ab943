import Conventions.Yaml.Scalar

/-!
# Properties and directives of YAML texts

Anchors and tags stand before a value, directives on lines of their own before a
document.
-/

namespace Conventions.Yaml

/-- A character of names of anchors, handles and directives. -/
def isNameChar (c : Char) : Bool :=
  ('0' ≤ c && c ≤ '9') || ('A' ≤ c && c ≤ 'Z') || ('a' ≤ c && c ≤ 'z') || c == '_' || c == '-'

/-- A name, and what follows it. -/
def takeName (text : List Char) : String × List Char :=
  (String.ofList (text.takeWhile isNameChar), text.dropWhile isNameChar)

/-- Whether an anchor may end before a text. -/
def endsAnchor (text : List Char) : Bool :=
  endsWord text || (text.head?.any fun c => ['?', ':', ',', ']', '}', '%', '@', '`'].contains c)

/-- The name of an anchor, and what follows it. -/
def anchorName (text : List Char) : Except Problem (String × List Char) :=
  let (name, rest) := takeName text
  if name.isEmpty || !endsAnchor rest then .error .missingAnchorName else .ok (name, rest)

/-- A character of a tag. Those that have a meaning in flow collections belong to it only
where none can be meant. -/
def isTagChar (withFlow : Bool) (c : Char) : Bool :=
  isNameChar c || [';', '/', '?', ':', '@', '&', '=', '+', '$', '.', '!', '~', '*', '\'', '(',
    ')'].contains c || (withFlow && [',', '[', ']'].contains c)

/-- The bytes of a tag, with its escapes resolved, and what follows it. -/
def tagBytes (withFlow : Bool) : List Char → Except Problem (List UInt8 × List Char)
  | '%' :: a :: b :: rest =>
    match Plain.digit? a, Plain.digit? b with
    | some high, some low => do
      let (bytes, rest) ← tagBytes withFlow rest
      return (UInt8.ofNat (16 * high + low) :: bytes, rest)
    | _, _ => .error .invalidTag
  | c :: rest =>
    if isTagChar withFlow c then do
      let (bytes, rest) ← tagBytes withFlow rest
      return (UInt8.ofNat c.toNat :: bytes, rest)
    else if c == '%' then .error .invalidTag
    else .ok ([], c :: rest)
  | [] => .ok ([], [])

/-- The text of a tag, and what follows it. -/
def tagText (withFlow : Bool) (text : List Char) : Except Problem (String × List Char) := do
  let (bytes, rest) ← tagBytes withFlow text
  match String.fromUTF8? ⟨bytes.toArray⟩ with
  | some value => return (value, rest)
  | none => throw .invalidTag

/-- The text of a tag that must not be empty, and what follows it. -/
def someTagText (withFlow : Bool) (text : List Char) : Except Problem (String × List Char) := do
  let (value, rest) ← tagText withFlow text
  if value.isEmpty then throw .invalidTag
  return (value, rest)

/-- Reads a tag behind its first mark: its handle, the rest of it, and what follows. -/
def readTag (text : List Char) : Except Problem (String × String × List Char) :=
  match text with
  | '<' :: verbatim => do
    match ← someTagText true verbatim with
    | (value, '>' :: rest) => return ("", value, rest)
    | _ => throw .invalidTag
  | _ => do
    match takeName text with
    | (name, '!' :: behind) =>
      let (value, rest) ← someTagText false behind
      return ("!" ++ name ++ "!", value, rest)
    | (name, behind) =>
      let (value, rest) ← tagText false behind
      if (name ++ value).isEmpty then return ("", "!", rest) else return ("!", name ++ value, rest)

/-- A tag as a token, and what follows it. -/
def tagToken (inFlow : Bool) (text : List Char) : Except Problem (Token × List Char) := do
  let (handle, value, rest) ← readTag text
  if endsWord rest || (inFlow && rest.head? == some ',') then return (.tag handle value, rest)
  else throw .invalidTag

/-- A part of a version, and what follows it. -/
def versionNumber (text : List Char) : Except Problem (Nat × List Char) :=
  let digits := text.takeWhile Plain.isDecimal
  match Plain.digits? 10 digits with
  | some value =>
    if 9 < digits.length then .error .invalidDirective
    else .ok (value, text.dropWhile Plain.isDecimal)
  | none => .error .invalidDirective

/-- Reads the version of the language. -/
def versionToken (text : List Char) : Except Problem (Token × List Char) := do
  match ← versionNumber (text.dropWhile isBlank) with
  | (major, '.' :: rest) =>
    let (minor, rest) ← versionNumber rest
    return (.version major minor, rest)
  | _ => throw .invalidDirective

/-- Reads the handle of a directive. -/
def directiveHandle (text : List Char) : Except Problem (String × List Char) :=
  match text with
  | '!' :: text =>
    match takeName text with
    | (name, '!' :: rest) => .ok ("!" ++ name ++ "!", rest)
    | (name, rest) => if name.isEmpty then .ok ("!", rest) else .error .invalidDirective
  | _ => .error .invalidDirective

/-- Reads the meaning of a handle. -/
def handleToken (text : List Char) : Except Problem (Token × List Char) := do
  let (name, behind) ← directiveHandle (text.dropWhile isBlank)
  if !behind.head?.any isBlank then throw .invalidDirective
  let (start, rest) ← someTagText true (behind.dropWhile isBlank)
  if !endsWord rest then throw .invalidDirective
  return (.handle name start, rest)

/-- Reads a directive behind its mark; nothing but a comment may follow it in its line. -/
def directiveToken (text : List Char) : Except Problem (Token × List Char) := do
  let (name, behind) := takeName text
  if !endsWord behind then throw .invalidDirective
  let (token, rest) ←
    if name = "YAML" then versionToken behind
    else if name = "TAG" then handleToken behind
    else .error .invalidDirective
  let rest := rest.dropWhile isBlank
  let rest := if rest.head? == some '#' then rest.dropWhile (!isBreak ·) else rest
  if rest.head?.all isBreak then return (token, rest) else throw .invalidDirective

end Conventions.Yaml
