/-!
# YAML tokens

The indicators, scalars and properties of a YAML text, and the marks at which block
collections open and close. A block collection has no sign of its own: its marks
follow from the columns at which its entries stand.
-/

namespace Conventions.Yaml

/-- What is wrong with a YAML text. -/
inductive Problem where
  | forbiddenCharacter
  | unexpectedCharacter
  | tabInIndentation
  | missingColon
  | misplacedEntry
  | misplacedKey
  | misplacedValue
  | missingAnchorName
  | invalidTag
  | undefinedHandle
  | invalidEscape
  | unclosedQuote
  | markerInQuotes
  | invalidBlockHeader
  | unexpectedColon
  | invalidDirective
  | duplicateDirective
  | missingDocumentStart
  | missingContent
  | missingEntry
  | missingSeparator
  | manyDocuments
  | unknownAnchor
  | tooDeep
  | tooManyAliases
  | duplicateKey
  | numberOutOfRange
  | mistagged
  deriving DecidableEq, Repr, Inhabited

/-- The wording of a problem. -/
def Problem.text : Problem → String
  | forbiddenCharacter => "control characters are not allowed"
  | unexpectedCharacter => "found character that cannot start any token"
  | tabInIndentation => "found a tab character that violates indentation"
  | missingColon => "could not find expected ':'"
  | misplacedEntry => "block sequence entries are not allowed in this context"
  | misplacedKey => "mapping keys are not allowed in this context"
  | misplacedValue => "mapping values are not allowed in this context"
  | missingAnchorName => "did not find expected alphabetic or numeric character"
  | invalidTag => "did not find expected tag URI"
  | undefinedHandle => "found undefined tag handle"
  | invalidEscape => "found unknown escape character"
  | unclosedQuote => "found unexpected end of stream"
  | markerInQuotes => "found unexpected document indicator"
  | invalidBlockHeader => "did not find expected comment or line break"
  | unexpectedColon => "found unexpected ':'"
  | invalidDirective => "found unknown directive name"
  | duplicateDirective => "found duplicate directive"
  | missingDocumentStart => "did not find expected <document start>"
  | missingContent => "did not find expected node content"
  | missingEntry => "did not find expected key or indicator"
  | missingSeparator => "did not find expected ',' or bracket"
  | manyDocuments => "deserializing from YAML containing more than one document is not supported"
  | unknownAnchor => "unknown anchor"
  | tooDeep => "recursion limit exceeded"
  | tooManyAliases => "repetition limit exceeded"
  | duplicateKey => "duplicate entry in mapping"
  | numberOutOfRange => "invalid type: integer, expected any YAML value"
  | mistagged => "invalid value for its tag"

/-- A token. -/
inductive Token where
  | version (major minor : Nat)
  /-- A handle of tags, and the start of the tags that it stands for. -/
  | handle (name start : String)
  | documentStart
  | documentEnd
  | streamEnd
  | blockSequenceStart
  | blockMappingStart
  | blockEnd
  | flowSequenceStart
  | flowSequenceEnd
  | flowMappingStart
  | flowMappingEnd
  | blockEntry
  | flowEntry
  | key
  | value
  | alias (name : String)
  | anchor (name : String)
  /-- A tag: a handle, which may be empty, and what follows it. -/
  | tag (handle rest : String)
  /-- A scalar; a plain one is neither quoted nor a block. -/
  | scalar (isPlain : Bool) (text : String)
  deriving DecidableEq, Repr, Inhabited

end Conventions.Yaml
