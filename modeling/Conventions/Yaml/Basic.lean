import Conventions.Json.Basic
import Conventions.Text.Quoted

/-!
# YAML values

A YAML value may carry a tag, its numbers may be infinite or undefined, and the keys
of its mappings are values of any kind. The keys of a mapping are distinct and keep
the order in which they were written.
-/

namespace Conventions

/-- A YAML value. -/
inductive Yaml where
  | null
  | bool (value : Bool)
  | number (value : JsonNumber)
  | string (value : String)
  | sequence (items : List Yaml)
  | mapping (entries : List (Yaml × Yaml))
  /-- A value with a tag of the application, which is given without its mark. -/
  | tagged (tag : String) (value : Yaml)
  deriving Repr, Inhabited

namespace Yaml

/-- Numbers in YAML texts: no exponent for a first digit between `10 ^ -5` and
`10 ^ 15`, doubles always with a point or an exponent, and no sign on a positive
exponent. -/
def numberLayout : Binary64.Layout := ⟨some (-5, 15), true, false⟩

/-- The text of a number. -/
def numberText : JsonNumber → String
  | .whole value => JsonNumber.wholeText value
  | .double (.infinite negative) => if negative then "-.inf" else ".inf"
  | .double .nan => ".nan"
  | .double value => Binary64.text numberLayout value

/-- Whether two numbers are the same as keys. The two zeros are, and so are all
undefined numbers; a whole number and a double never are. -/
def sameNumber : JsonNumber → JsonNumber → Bool
  | .whole a, .whole b => a == b
  | .double a, .double b => a == b || (a.isZero && b.isZero)
  | _, _ => false

mutual

/-- Whether two values are the same as keys. The order of a mapping does not count. -/
def same : Yaml → Yaml → Bool
  | null, null => true
  | bool a, bool b => a == b
  | number a, number b => sameNumber a b
  | string a, string b => a == b
  | sequence a, sequence b => sameItems a b
  | mapping a, mapping b => a.length == b.length && eachFound a b
  | tagged tag a, tagged other b => tag == other && same a b
  | _, _ => false

/-- Whether two sequences have the same items. -/
def sameItems : List Yaml → List Yaml → Bool
  | [], [] => true
  | a :: as, b :: bs => same a b && sameItems as bs
  | _, _ => false

/-- Whether each entry of one mapping is in another. -/
def eachFound : List (Yaml × Yaml) → List (Yaml × Yaml) → Bool
  | [], _ => true
  | (key, value) :: rest, entries =>
    (entries.any fun entry => same key entry.1 && same value entry.2) && eachFound rest entries

end

/-- The value under a key. -/
def lookup? (key : Yaml) : List (Yaml × Yaml) → Option Yaml
  | [] => none
  | (k, v) :: rest => if same k key then some v else lookup? key rest

/-- Puts a value under a key: in place if the key is there, at the end otherwise. -/
def insert (key value : Yaml) : List (Yaml × Yaml) → List (Yaml × Yaml)
  | [] => [(key, value)]
  | (k, v) :: rest => if same k key then (k, value) :: rest else (k, v) :: insert key value rest

/-- The value behind its tags. -/
def untagged : Yaml → Yaml
  | tagged _ value => untagged value
  | value => value

/-- The text of a string, tagged or not. -/
def asString? (value : Yaml) : Option String :=
  match value.untagged with
  | string text => some text
  | _ => none

/-- The value under a text in a mapping, tagged or not. -/
def field? (name : String) (value : Yaml) : Option Yaml :=
  match value.untagged with
  | mapping entries => lookup? (string name) entries
  | _ => none

/-- The value with another one under a text, if it is a mapping, tagged or not. -/
def withField? (name : String) (field : Yaml) : Yaml → Option Yaml
  | mapping entries => some (mapping (insert (string name) field entries))
  | tagged tag value => (withField? name field value).map (tagged tag)
  | _ => none

mutual

/-- A value in a message. -/
def quoted : Yaml → String
  | null => "Null"
  | bool value => "Bool(" ++ (if value then "true" else "false") ++ ")"
  | number value => "Number(" ++ numberText value ++ ")"
  | string value => "String(" ++ Text.quoted value ++ ")"
  | sequence items => "Sequence [" ++ ", ".intercalate (quotedItems items) ++ "]"
  | mapping entries => "Mapping \x7b" ++ ", ".intercalate (quotedEntries entries) ++ "\x7d"
  | tagged tag value => "TaggedValue \x7b tag: !" ++ tag ++ ", value: " ++ quoted value ++ " \x7d"

/-- Items in a message. -/
def quotedItems : List Yaml → List String
  | [] => []
  | item :: rest => quoted item :: quotedItems rest

/-- Entries in a message. A simple key is shown as it is. -/
def quotedEntries : List (Yaml × Yaml) → List String
  | [] => []
  | (key, value) :: rest =>
    ((match key with
      | bool value => if value then "true" else "false"
      | number value => numberText value
      | string value => Text.quoted value
      | other => quoted other) ++ ": " ++ quoted value) :: quotedEntries rest

end

end Yaml

end Conventions
