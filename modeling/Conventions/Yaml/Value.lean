import Conventions.Yaml.Tree

/-!
# Reading YAML values

The value that a tree stands for. Aliases are replaced by what they stand for, within
limits on the depth and on their number, and two equal keys in a mapping are refused.
-/

namespace Conventions.Yaml

mutual

/-- The number of scalars and aliases of a tree, and of the ends of its collections. -/
def Tree.size : Tree → Nat
  | .alias _ | .scalar .. => 1
  | .sequence _ items => sizeOfItems items + 2
  | .mapping _ entries => sizeOfEntries entries + 2

/-- The size of items. -/
def sizeOfItems : List Tree → Nat
  | [] => 0
  | item :: rest => item.size + sizeOfItems rest

/-- The size of entries. -/
def sizeOfEntries : List (Tree × Tree) → Nat
  | [] => 0
  | (key, value) :: rest => key.size + value.size + sizeOfEntries rest

end

/-- A node under the number of its anchor, if it has one. -/
def Properties.entry (properties : Properties) (tree : Tree) : List (Nat × Tree) :=
  properties.anchor.toList.map fun id => (id, tree)

mutual

/-- The nodes with anchors. -/
def Tree.anchored : Tree → List (Nat × Tree)
  | .alias _ => []
  | .scalar properties isPlain text => properties.entry (.scalar properties isPlain text)
  | .sequence properties items =>
    properties.entry (.sequence properties items) ++ anchoredItems items
  | .mapping properties entries =>
    properties.entry (.mapping properties entries) ++ anchoredEntries entries

/-- The nodes with anchors among items. -/
def anchoredItems : List Tree → List (Nat × Tree)
  | [] => []
  | item :: rest => item.anchored ++ anchoredItems rest

/-- The nodes with anchors among entries. -/
def anchoredEntries : List (Tree × Tree) → List (Nat × Tree)
  | [] => []
  | (key, value) :: rest => key.anchored ++ value.anchored ++ anchoredEntries rest

end

/-- The name of a tag of the application: what follows its mark, or else the mark. -/
def applicationTag? (tag : String) : Option String :=
  let unmarked : List Char → List Char
    | '!' :: c :: rest => c :: rest
    | text => text
  match tag.toList with
  | '!' :: _ => some (String.ofList (unmarked (unmarked tag.toList)))
  | _ => none

/-- What a scalar with a tag of the language stands for. Only the tags of simple values
count; under any other one a scalar is a text. -/
def taggedScalar (tag text : String) : Except Problem Yaml :=
  if tag = "tag:yaml.org,2002:bool" then
    match Plain.switch? text with
    | some value => .ok (.bool value)
    | none => .error .mistagged
  else if tag = "tag:yaml.org,2002:int" then
    match (Plain.whole? text.toList).filter Plain.isRead with
    | some value =>
      if Plain.fits value then .ok (.number (.whole value)) else .error .numberOutOfRange
    | none => .error .mistagged
  else if tag = "tag:yaml.org,2002:float" then
    match Plain.double? text with
    | some value => .ok (.number (.double value))
    | none => .error .mistagged
  else if tag = "tag:yaml.org,2002:null" then
    if Plain.isNull text then .ok .null else .error .mistagged
  else .ok (.string text)

/-- What a scalar without a tag stands for. -/
def untaggedScalar (isPlain : Bool) (text : String) : Except Problem Yaml :=
  if isPlain then
    match Plain.value? text with
    | some value => .ok value
    | none => .error .numberOutOfRange
  else .ok (.string text)

/-- A reader of values that counts the aliases it has followed. -/
abbrev Read := StateT Nat (Except Problem)

/-- The nodes with anchors, and how many aliases may be followed. -/
structure AliasTable where
  /-- The nodes by the numbers of their anchors, last one first. -/
  nodes : List (Nat × Tree)
  limit : Nat

/-- The node that an alias stands for: the last one with the number of its anchor. -/
def AliasTable.follow (table : AliasTable) (anchor : Nat) : Read Tree := do
  modify (· + 1)
  if table.limit < (← get) then throw .tooManyAliases
  match table.nodes.find? fun node => node.1 == anchor with
  | some (_, tree) => return tree
  | none => throw .unknownAnchor

/-- Reads the entries of a mapping behind those that are known, which are given last one
first. -/
def readEntries (readKey readValue : Tree → Read Yaml) (known : List (Yaml × Yaml)) :
    List (Tree × Tree) → Read (List (Yaml × Yaml))
  | [] => return known.reverse
  | (key, value) :: rest => do
    let key ← readKey key
    if known.any fun entry => same entry.1 key then throw .duplicateKey
    let value ← readValue value
    readEntries readKey readValue ((key, value) :: known) rest

/-- Reads a node, and what is in it with `inner`, if it may have anything in it. The tag
of a node whose tag has been dealt with is passed over, and so are the tags of keys in a
mapping with a tag. -/
def readNode (table : AliasTable) (inner : Option (Bool → Tree → Read Yaml))
    (isTagged : Bool) (node : Tree) : Read Yaml := do
  let (isTagged, node) ← match node with
    | .alias anchor => do pure (false, ← table.follow anchor)
    | other => pure (isTagged, other)
  let within : Except Problem (Bool → Tree → Read Yaml) :=
    match inner with
    | some read => .ok read
    | none => .error .tooDeep
  let ownTag (properties : Properties) : Option String :=
    if isTagged then none else properties.tag.bind applicationTag?
  let wrap (properties : Properties) (value : Yaml) : Yaml :=
    match ownTag properties with
    | some tag => .tagged tag value
    | none => value
  match node with
  | .alias _ => throw .unknownAnchor
  | .scalar properties isPlain text =>
    match properties.tag with
    | some tag =>
      if isTagged || (ownTag properties).isSome then
        return wrap properties (← untaggedScalar isPlain text)
      else taggedScalar tag text
    | none => untaggedScalar isPlain text
  | .sequence properties items => do
    let read ← within
    return wrap properties (.sequence (← items.mapM (read false)))
  | .mapping properties entries => do
    let read ← within
    let keysTagged := isTagged || (ownTag properties).isSome
    return wrap properties (.mapping (← readEntries (read keysTagged) (read false) [] entries))

/-- Reads a node with at most `depth` levels of collections. -/
def readTree (table : AliasTable) : Nat → Bool → Tree → Read Yaml
  | 0 => readNode table none
  | depth + 1 => readNode table (some (readTree table depth))

/-- Collections nest up to this depth. -/
def maxDepth : Nat := 128

/-- The value of a whole tree. A text with many aliases for large values is refused. -/
def Tree.value (tree : Tree) : Except Problem Yaml := do
  let table : AliasTable := ⟨tree.anchored.reverse, 100 * tree.size⟩
  return (← (readTree table maxDepth false tree).run 0).1

/-- The value of a YAML text; that of an empty one is null. -/
def parse (text : String) : Except Problem Yaml := do
  match ← Tree.ofTokens? (← Token.scan text) with
  | some tree => tree.value
  | none => return .null

end Conventions.Yaml
