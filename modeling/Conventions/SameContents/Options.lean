import Conventions.Config.Basic
import Conventions.Content.Query
import Conventions.Failure
import Conventions.Json.Merge
import Conventions.Json.Printer

/-!
# Options for comparing contents

Which files of a module are compared with those of a reference module, how similar
they have to be, and which parts of them count. A setting is laid over a list of
defaults, file by file and selector by selector.
-/

namespace Conventions.SameContents

/-- A part of a file that is compared. -/
structure Selector where
  /-- The query as it was written. -/
  raw : String
  query : Query
  /-- Whether the part has to be there. -/
  required : Bool
  deriving DecidableEq, Repr, Inhabited

/-- A file that is compared: as a whole, or by its selected parts if there are any. -/
structure FileEntry where
  name : String
  enabled : Bool
  minSimilarity : Binary64
  selectors : List Selector
  deriving Repr, Inhabited

/-- The least score of a file that is similar enough. -/
def FileEntry.minimum (entry : FileEntry) : Rat := entry.minSimilarity.toRat

/-- Whether two entries ask for the same; the two zeros are the same minimum. -/
def FileEntry.same (a b : FileEntry) : Bool :=
  a.name == b.name && a.enabled == b.enabled && decide (a.minimum = b.minimum) &&
    a.selectors == b.selectors

/-- What is compared, and with which module; an absent one is to be picked. -/
structure Options where
  reference? : Option String
  files : List FileEntry
  deriving Repr, Inhabited

/-- Whether two lists of entries ask for the same. -/
def sameEntries : List FileEntry → List FileEntry → Bool
  | [], [] => true
  | a :: as, b :: bs => a.same b && sameEntries as bs
  | _, _ => false

/-- Whether two options ask for the same. -/
def Options.same (a b : Options) : Bool :=
  a.reference? == b.reference? && sameEntries a.files b.files

/-- A file that is compared as a whole by default. -/
def wholeFile (name : String) : String × Json := (name, .bool true)

/-- A file of which parts are compared by default. -/
def partsOf (name : String) (selectors : List String) : String × Json :=
  (name, .object [("selectors", .array (selectors.map .string))])

/-- The files that are compared by default. -/
def defaultFiles : List (String × Json) := [
  wholeFile "LICENSE",
  wholeFile "jest.config.js",
  wholeFile "tsconfig.json",
  wholeFile "tsconfig.eslint.json",
  wholeFile ".eslintrc.js",
  wholeFile ".eslintignore",
  wholeFile ".prettierrc.js",
  wholeFile ".prettierignore",
  partsOf "package.json" [
    "license", "author", "repository.type", "scripts.build", "scripts.lint",
    "scripts.lint-fix", "scripts.clean", "scripts.test", "scripts.unit-tests",
    "scripts.integration-tests", "scripts.deploy", "dependencies", "devDependencies",
    "engines.node", "publishConfig"],
  partsOf "serverless.yml" [
    "provider.runtime", "provider.lambdaHashingVersion", "provider.logRetentionInDays",
    "provider.tracing"],
  partsOf "Makefile" [
    "build", "lint", "test", "unit-tests", "integration-tests", "package", "deploy",
    "undeploy", "start", "clean", "install"]]

/-- A list of selectors as an object in which each of them is on. -/
def selectorTable (selectors : List Json) : Except String Json := do
  let names ← selectors.mapM fun
    | .string name => .ok name
    | other => .error ("selector " ++ other.compact ++ " is not a string")
  return .object (Entries.ofPairs (names.map fun name => (name, .bool true)))

/-- The object form of the setting of a file, with its selectors as an object. -/
def normalEntry : Json → Except String Json
  | .bool enabled => .ok (.object [("enabled", .bool enabled)])
  | .object fields =>
    match Entries.find? "selectors" fields with
    | some (.array selectors) => do
      let table ← selectorTable selectors
      return .object (Entries.insert "selectors" table fields)
    | _ => .ok (.object fields)
  | other => .error ("unexpected file configuration " ++ other.compact)

/-- The object forms of the settings of files. -/
def normalFiles (files : List (String × Json)) : Except String Json := do
  let normal ← files.mapM fun (name, entry) => do return (name, ← normalEntry entry)
  return .object normal

/-- Whether a field of a selector's setting is on. -/
def flag (fields : Entries Json) (name : String) : Bool :=
  ((Entries.find? name fields).bind Json.asBool?).getD false

/-- Whether the setting of a selector switches it off, or else requires its part. -/
def requirement : Json → Except String (Option Bool)
  | .bool false | .null => .ok none
  | .bool true => .ok (some false)
  | .object fields =>
    if (Entries.find? "enabled" fields).bind Json.asBool? = some false then .ok none
    else .ok (some (flag fields "required" || flag fields "strict"))
  | other => .error ("unexpected selector configuration " ++ other.compact)

/-- The selector that a setting stands for, unless it is switched off. -/
def selector? (raw : String) (setting : Json) : Except String (Option Selector) := do
  match ← requirement setting with
  | none => return none
  | some required =>
    match Query.ofText raw with
    | .ok query => return some ⟨raw, query, required⟩
    | .error failure => throw failure.message

/-- What is set for a file, before its selectors are read. -/
structure FileSetting where
  enabled : Bool := true
  minSimilarity : Binary64 := Binary64.ofInt 100
  selectors : Entries Json := []

open Json

/-- Reads an object as its fields. -/
def asFields (depth : Depth) (node : Node) : Except Fault (Entries Json) := do
  return Entries.ofPairs (← node.asTable depth fun depth _ value => value.value depth)

/-- The shape of the setting of a file. -/
def fileShape : RecordShape FileSetting where
  name := "RawFile"
  fields := [
    ⟨"enabled", [], fun _ node setting => do
      return { setting with enabled := ← node.asSwitch }⟩,
    ⟨"min-similarity", ["minSimilarity"], fun _ node setting => do
      return { setting with minSimilarity := ← node.asDouble }⟩,
    ⟨"selectors", [], fun depth node setting => do
      return { setting with selectors := ← asFields depth node }⟩]
  isClosed := true

/-- What is set for the rule, before the files are read. -/
structure Setting where
  reference? : Option String := none
  files : Entries Json := []

/-- The shape of a structured setting of the rule. -/
def shape : RecordShape Setting where
  name := "RawOptions"
  fields := [
    ⟨"reference-module", ["referenceModule"], fun _ node setting => do
      return { setting with reference? := ← node.asOptional Node.asText }⟩,
    ⟨"files", [], fun depth node setting => do
      return { setting with files := ← asFields depth node }⟩]
  isClosed := true

/-- The setting in the form of a record. -/
def Setting.ofRuleSetting : RuleSetting → Except String Setting
  | .disabled | .enabled => .ok {}
  | .shorthand reference => .ok { reference? := some reference }
  | .structured value =>
    match readAs (shape.read {}) value with
    | .ok setting => .ok setting
    | .error fault => .error fault.text

/-- Reads the setting of a file that has been laid over the defaults. -/
def readFile (name : String) (value : Json) : Except String FileEntry := do
  match readAs (fileShape.read {}) value with
  | .error fault => throw (name ++ ": " ++ fault.text)
  | .ok setting =>
    let minimum := setting.minSimilarity.toRat
    if minimum < 0 || 100 < minimum then
      throw (name ++ ": min-similarity must be between 0 and 100")
    let selectors ← setting.selectors.mapM fun (raw, value) =>
      match selector? raw value with
      | .ok selector => .ok selector
      | .error reason => .error (name ++ ": " ++ reason)
    return ⟨name, setting.enabled, setting.minSimilarity, selectors.filterMap id⟩

/-- The options that a setting stands for. -/
def Options.ofSetting (setting : RuleSetting) : Except String Options := do
  let setting ← Setting.ofRuleSetting setting
  let defaults ← normalFiles defaultFiles
  let own ← normalFiles setting.files
  match mergeAll [defaults, own] with
  | .object fields =>
    let files ← fields.mapM fun (name, value) => readFile name value
    return ⟨setting.reference?, files⟩
  | _ => return ⟨setting.reference?, []⟩

end Conventions.SameContents
