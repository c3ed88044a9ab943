import Conventions.Yaml.Scan

/-!
# YAML trees

The tree that the tokens of a document describe. A value knows its tag and its
anchor, and an alias the number of the anchor that it stands for.
-/

namespace Conventions.Yaml

/-- What stands before a value. -/
structure Properties where
  anchor : Option Nat
  tag : Option String
  deriving Repr, Inhabited

/-- A node of the tree. -/
inductive Tree where
  | alias (anchor : Nat)
  | scalar (properties : Properties) (isPlain : Bool) (text : String)
  | sequence (properties : Properties) (items : List Tree)
  | mapping (properties : Properties) (entries : List (Tree × Tree))
  deriving Repr, Inhabited

/-- The scalar of a value that is left out. -/
def Tree.absent : Tree := .scalar ⟨none, none⟩ true ""

/-- The state of the builder of trees. -/
structure Builder where
  tokens : List Token
  /-- The handles of tags and what they stand for. -/
  handles : List (String × String)
  /-- The numbers of the anchors, by name. -/
  anchors : Entries Nat

/-- A builder of a part of a tree. -/
abbrev Build := StateT Builder (Except Problem)

namespace Build

/-- The next token. -/
def peek : Build Token := do return (← get).tokens.headD .streamEnd

/-- Passes over the next token. -/
def skip : Build Unit := modify fun state => { state with tokens := state.tokens.drop 1 }

/-- Passes over the next token if it is a given one. -/
def accept (token : Token) : Build Bool := do
  if (← peek) = token then
    skip
    return true
  return false

/-- Gives an anchor its number, which is the number of names that are known before it. A
name that is used again gets a new number, and the next new name gets the same one. -/
def newAnchor (name : String) : Build Nat := do
  let state ← get
  let id := state.anchors.length
  set { state with anchors := Entries.insert name id state.anchors }
  return id

/-- The number of the anchor with a name. -/
def findAnchor (name : String) : Build Nat := do
  match Entries.find? name (← get).anchors with
  | some id => return id
  | none => throw .unknownAnchor

/-- The tag that a handle and the rest of a tag make up. -/
def resolveTag (handle rest : String) : Build String := do
  if handle.isEmpty then return rest
  match (← get).handles.find? fun known => known.1 == handle with
  | some (_, start) => return start ++ rest
  | none => throw .undefinedHandle

/-- The anchor before a value, by name, and its tag, in either order. -/
def properties : Build (Option String × Option String) := do
  match ← peek with
  | .anchor name =>
    skip
    match ← peek with
    | .tag handle rest =>
      skip
      return (some name, some (← resolveTag handle rest))
    | _ => return (some name, none)
  | .tag handle rest =>
    skip
    match ← peek with
    | .anchor name =>
      skip
      return (some name, some (← resolveTag handle rest))
    | _ => return (none, some (← resolveTag handle rest))
  | _ => return (none, none)

/-- Where a value stands: inside of a flow collection, in a block, or in a block mapping,
where the entries of a sequence need not be indented. -/
inductive Position where
  | flow
  | block
  | entry
  deriving DecidableEq

/-- Whether a value is left out before a token in a block. -/
def endsBlockValue (inMapping : Bool) : Token → Bool
  | .blockEnd => true
  | .blockEntry => !inMapping
  | .key | .value => inMapping
  | _ => false

/-- Whether a value is left out before a token in an unindented sequence. -/
def endsUnindentedItem : Token → Bool
  | .blockEntry | .key | .value | .blockEnd => true
  | _ => false

mutual

/-- A value. -/
def node (position : Position) : Nat → Build Tree
  | 0 => throw .tooDeep
  | fuel + 1 => do
    match ← peek with
    | .alias name =>
      skip
      return .alias (← findAnchor name)
    | _ =>
      let (anchor?, tag) ← properties
      let anchor ← anchor?.mapM newAnchor
      let properties : Properties := ⟨anchor, tag⟩
      let isBlock := position != .flow
      match ← peek with
      | .scalar isPlain text =>
        skip
        return .scalar properties isPlain text
      | .flowSequenceStart =>
        skip
        return .sequence properties (← flowItems true fuel)
      | .flowMappingStart =>
        skip
        return .mapping properties (← flowEntries true fuel)
      | token =>
        if token = .blockEntry ∧ position = .entry then
          return .sequence properties (← unindentedItems fuel)
        else if token = .blockSequenceStart ∧ isBlock then
          skip
          return .sequence properties (← blockItems fuel)
        else if token = .blockMappingStart ∧ isBlock then
          skip
          return .mapping properties (← blockEntries fuel)
        else if anchor.isSome || tag.isSome then return .scalar properties true ""
        else throw .missingContent

/-- The items of a block sequence. -/
def blockItems : Nat → Build (List Tree)
  | 0 => throw .tooDeep
  | fuel + 1 => do
    if ← accept .blockEnd then return []
    if !(← accept .blockEntry) then throw .missingEntry
    let item ← if endsBlockValue false (← peek) then pure Tree.absent else node .block fuel
    return item :: (← blockItems fuel)

/-- The items of a sequence that is not indented against the mapping it is in. -/
def unindentedItems : Nat → Build (List Tree)
  | 0 => throw .tooDeep
  | fuel + 1 => do
    if !(← accept .blockEntry) then return []
    let item ← if endsUnindentedItem (← peek) then pure Tree.absent else node .block fuel
    return item :: (← unindentedItems fuel)

/-- The entries of a block mapping. -/
def blockEntries : Nat → Build (List (Tree × Tree))
  | 0 => throw .tooDeep
  | fuel + 1 => do
    if ← accept .blockEnd then return []
    if !(← accept .key) then throw .missingEntry
    let key ← if endsBlockValue true (← peek) then pure Tree.absent else node .entry fuel
    let hasValue ← accept .value
    let value ← if !hasValue || endsBlockValue true (← peek) then pure Tree.absent
      else node .entry fuel
    return (key, value) :: (← blockEntries fuel)

/-- The items of a flow sequence. An item with a colon is a mapping of one entry. -/
def flowItems (isFirst : Bool) : Nat → Build (List Tree)
  | 0 => throw .tooDeep
  | fuel + 1 => do
    if ← accept .flowSequenceEnd then return []
    if !isFirst && !(← accept .flowEntry) then throw .missingSeparator
    if ← accept .flowSequenceEnd then return []
    let item ←
      if ← accept .key then do
        let entry ← flowPair fuel
        pure (Tree.mapping ⟨none, none⟩ [entry])
      else node .flow fuel
    return item :: (← flowItems false fuel)

/-- The entry of a mapping that stands for an item of a flow sequence. -/
def flowPair : Nat → Build (Tree × Tree)
  | 0 => throw .tooDeep
  | fuel + 1 => do
    let token ← peek
    let key ←
      if token = .value ∨ token = .flowEntry ∨ token = .flowSequenceEnd then do
        skip
        pure Tree.absent
      else node .flow fuel
    let hasValue ← accept .value
    let token ← peek
    let value ← if !hasValue || token = .flowEntry || token = .flowSequenceEnd then
        pure Tree.absent
      else node .flow fuel
    return (key, value)

/-- The entries of a flow mapping. -/
def flowEntries (isFirst : Bool) : Nat → Build (List (Tree × Tree))
  | 0 => throw .tooDeep
  | fuel + 1 => do
    if ← accept .flowMappingEnd then return []
    if !isFirst && !(← accept .flowEntry) then throw .missingSeparator
    if ← accept .flowMappingEnd then return []
    if ← accept .key then
      let token ← peek
      let key ← if token = .value ∨ token = .flowEntry ∨ token = .flowMappingEnd then
          pure Tree.absent
        else node .flow fuel
      let hasValue ← accept .value
      let token ← peek
      let value ← if !hasValue || token = .flowEntry || token = .flowMappingEnd then
          pure Tree.absent
        else node .flow fuel
      return (key, value) :: (← flowEntries false fuel)
    else
      let key ← node .flow fuel
      return (key, Tree.absent) :: (← flowEntries false fuel)

end

/-- Reads the directives before a document. A version is given at most once, and so is
the meaning of each handle. -/
def directives (hasVersion : Bool) (handles : List (String × String)) :
    List Token → Except Problem (Bool × List (String × String) × List Token)
  | .version major minor :: rest =>
    if hasVersion then .error .duplicateDirective
    else if major ≠ 1 ∨ (minor ≠ 1 ∧ minor ≠ 2) then .error .invalidDirective
    else directives true handles rest
  | .handle name start :: rest =>
    if handles.any fun known => known.1 == name then .error .duplicateDirective
    else directives hasVersion ((name, start) :: handles) rest
  | tokens => .ok (hasVersion || !handles.isEmpty, handles, tokens)

/-- The handles that need no directive. -/
def usualHandles : List (String × String) := [("!", "!"), ("!!", "tag:yaml.org,2002:")]

/-- Whether the content of a document is left out before a token. -/
def endsDocument : Token → Bool
  | .version .. | .handle .. | .documentStart | .documentEnd | .streamEnd => true
  | _ => false

end Build

/-- The tree of the only document of a text, if it has one. -/
def Tree.ofTokens? (tokens : List Token) : Except Problem (Option Tree) := do
  if tokens.head? = some .streamEnd then return none
  let (hasDirectives, handles, tokens) ← Build.directives false [] tokens
  let isExplicit := tokens.head? = some .documentStart
  if hasDirectives && !isExplicit then throw .missingDocumentStart
  let tokens := if isExplicit then tokens.drop 1 else tokens
  let builder : Builder := ⟨tokens, handles ++ Build.usualHandles, []⟩
  let (tree, builder) ←
    if isExplicit && Build.endsDocument (tokens.headD .streamEnd) then
      pure (Tree.absent, builder)
    else (Build.node .block (tokens.length + 1)).run builder
  match builder.tokens.dropWhile (· = .documentEnd) with
  | [.streamEnd] => return some tree
  | _ => throw .manyDocuments

end Conventions.Yaml
