import Conventions.Json.Record

/-!
# Configurations

What a config file says. Every field can be left open, so that a directory can
tell "not set" from "set to the usual value" when its settings are laid over
those of the directories above.
-/

namespace Conventions

/-- How a rule is set. -/
inductive RuleSetting where
  | disabled
  | enabled
  /-- A single text. -/
  | shorthand (text : String)
  /-- A list or an object with options of the rule. -/
  | structured (value : Json)
  deriving Repr, Inhabited

namespace RuleSetting

/-- Whether the rule is on. -/
def isEnabled : RuleSetting → Bool
  | disabled => false
  | _ => true

/-- The setting that a value stands for, or why it stands for none. -/
def ofJson : Json → Except String RuleSetting
  | .null | .bool false => .ok disabled
  | .bool true => .ok enabled
  | .string text => .ok (shorthand text)
  | .array items => .ok (structured (.array items))
  | .object fields => .ok (structured (.object fields))
  | .number value =>
    .error ("expected a boolean, string, object or array rule configuration, found " ++ value.text)

/-- The value that stands for a setting. -/
def toJson : RuleSetting → Json
  | disabled => .bool false
  | enabled => .bool true
  | shorthand text => .string text
  | structured value => value

end RuleSetting

/-- The settings of one directory, or of several laid over each other. The rules
ascend by name. -/
structure Config where
  markers? : Option (List String) := none
  useGitignore? : Option Bool := none
  extends? : Option (List String) := none
  rules? : Option (Entries RuleSetting) := none
  deriving Repr, Inhabited

namespace Config

/-- The names of the files that mark a module; none if they are not set. -/
def markers (config : Config) : List String := config.markers?.getD []

/-- Whether the ignore file of the version control counts; not unless set. -/
def useGitignore (config : Config) : Bool := config.useGitignore?.getD false

/-- The rules that are set; none if they are left open. -/
def rules (config : Config) : Entries RuleSetting := config.rules?.getD []

/-- The setting of a rule. -/
def rule? (config : Config) (name : String) : Option RuleSetting :=
  Entries.find? name config.rules

/-- Whether a rule is set and on. -/
def ruleEnabled (config : Config) (name : String) : Bool :=
  match config.rule? name with
  | some setting => setting.isEnabled
  | none => false

/-- Rules laid over others, entry by entry. -/
def overRules (parent child : Entries RuleSetting) : Entries RuleSetting :=
  child.foldl (fun rules entry => Entries.insertSorted entry.1 entry.2 rules) parent

/-- The settings of a child laid over those of its parent. Rules are replaced one by
one, markers are added, and presets are dropped, since they have been laid under
before. -/
def merge (parent child : Config) : Config where
  markers? := some (parent.markers ++ child.markers)
  useGitignore? := child.useGitignore? <|> parent.useGitignore?
  extends? := none
  rules? := some (overRules parent.rules child.rules)

/-- The fields that are set, as a JSON object. -/
def toJson (config : Config) : Json :=
  .object <|
    (config.markers?.toList.map fun markers =>
      ("module-markers", Json.array (markers.map Json.string))) ++
    (config.useGitignore?.toList.map fun value => ("use-gitignore", Json.bool value)) ++
    (config.extends?.toList.map fun names => ("extends", Json.array (names.map Json.string))) ++
    (config.rules?.toList.map fun rules =>
      ("rules", Json.object (rules.map fun (name, setting) => (name, setting.toJson))))

end Config

open Json in
/-- Reads the setting of a rule. A value that is none is reported at the place of its
field. -/
def RuleSetting.read (depth : Depth) (place : Mark) (node : Node) : Except Fault RuleSetting := do
  match RuleSetting.ofJson (← node.value depth) with
  | .ok setting => return setting
  | .error reason => throw ⟨.refused reason, place⟩

namespace Config

open Json

/-- The shape of a config file. -/
def shape : RecordShape Config where
  name := "Config"
  fields := [
    ⟨"module-markers", ["moduleMarkers"], fun depth node config => do
      return { config with markers? := ← node.asOptional (Node.asTexts depth) }⟩,
    ⟨"use-gitignore", ["useGitignore"], fun _ node config => do
      return { config with useGitignore? := ← node.asOptional Node.asSwitch }⟩,
    ⟨"extends", [], fun depth node config => do
      return { config with extends? := ← node.asOptional (Node.asTexts depth) }⟩,
    ⟨"rules", [], fun depth node config => do
      let rules ← node.asOptional (Node.asTable depth RuleSetting.read)
      return { config with rules? := rules.map Entries.sorted }⟩]
  isClosed := false

/-- The config with a given text. -/
def parse (text : String) : Except Fault Config := (Document.ofText text).read (shape.read {})

end Config

end Conventions
