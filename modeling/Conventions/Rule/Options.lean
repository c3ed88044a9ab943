import Conventions.SameContents.Options
import Conventions.Failure
import Conventions.Glob.Depth
import Conventions.Regex.Parser
import Conventions.Rule.Basic

/-!
# Options of rules

The setting of a rule is brought to options of a fixed shape before the rule runs.
Whatever can be wrong with a setting comes out here. Globs are compiled to see that
they can be, and kept as they are written.
-/

namespace Conventions

/-- A glob as it is written in a setting. -/
structure GlobText where
  text : String
  deriving DecidableEq, Repr

/-- A glob with the text it was written as. -/
structure CompiledGlob where
  text : String
  pattern : Glob.Pattern

/-- Compiles globs, of which `meaning` gives the text that counts. -/
def compileGlobs (meaning : String → String) (globs : List GlobText) :
    Except Glob.Error (List CompiledGlob) :=
  globs.mapM fun glob => (Glob.parse (meaning glob.text)).map fun pattern => ⟨glob.text, pattern⟩

/-- The options of a rule. -/
inductive RuleOptions where
  /-- For a rule that is only on or off. -/
  | flag
  /-- The file with the name of the package. -/
  | packageFile (name : String)
  /-- The expression that the name of a module has to match. -/
  | namePattern (text : String) (regex : Regex)
  /-- The files that a module has to have. -/
  | requiredFiles (files : List String)
  /-- The folders that a module has to have; if strict, others are refused. -/
  | folders (required : List GlobText) (strict : Bool)
  /-- The folders that may hold a module. -/
  | parents (allowed : List GlobText)
  /-- The texts that may follow the name of a module in the name of a workflow file,
  and whether there has to be one for each. -/
  | workflows (required : Bool) (suffixes : List String)
  /-- What is compared. -/
  | contents (options : SameContents.Options)

namespace RuleOptions

open Json

/-- Reads a structured setting. -/
def readSetting {α : Type} (reader : Depth → Node → Except Fault α) (value : Json) :
    Except String α :=
  match readAs reader value with
  | .ok result => .ok result
  | .error fault => .error fault.text

/-- Why a single text is refused. -/
def unexpectedText (text : String) : String := "unexpected string '" ++ text ++ "'"

/-- Options of a rule that is only on or off. -/
def ofFlag : RuleSetting → Except String RuleOptions
  | .disabled | .enabled => .ok flag
  | other => .error ("expected true or false, found " ++ other.toJson.compact)

/-- The usual file with the name of the package. -/
def defaultPackageFile : String := "package.json"

/-- The shape of the options of `Rule.packageName`. -/
def packageShape : RecordShape String where
  name := "PackageJsonOptions"
  fields := [⟨"package-json-file", ["packageJsonFile"], fun _ node _ => node.asText⟩]
  isClosed := true

/-- Options of `Rule.packageName`. -/
def ofPackageName : RuleSetting → Except String RuleOptions
  | .disabled | .enabled => .ok (packageFile defaultPackageFile)
  | .structured value => do
    return packageFile (← readSetting (packageShape.read defaultPackageFile) value)
  | .shorthand text => .error (unexpectedText text)

/-- The usual expression for names of modules. -/
def defaultNamePattern : String := "[a-z]+[a-z0-9-_]\x7b4,12\x7d"

/-- Compiles the expression for names of modules. -/
def compileName (text : String) : Except String RuleOptions :=
  match Regex.parse text with
  | .ok regex => .ok (namePattern text regex)
  | .error problem => .error problem.text

/-- Options of `Rule.namePattern`. -/
def ofNamePattern : RuleSetting → Except String RuleOptions
  | .disabled | .enabled => compileName defaultNamePattern
  | .shorthand text => compileName text
  | .structured value => .error ("Invalid config '" ++ value.compact ++ "'")

/-- The files that are usually required. -/
def defaultRequiredFiles : List String := ["README.md"]

/-- Options of `Rule.requiredFiles`. -/
def ofRequiredFiles (setting : RuleSetting) : Except String RuleOptions := do
  let files ← match setting with
    | .disabled | .enabled => .ok defaultRequiredFiles
    | .shorthand file => .ok [file]
    | .structured value => readSetting Node.asTexts value
  if files.any fun file => Text.allBlank file.toList then
    throw "file names must not be empty"
  return requiredFiles files

/-- The globs with given texts, of which `meaning` gives those that count, if all of them
can be compiled. -/
def checkGlobs (meaning : String → String) (texts : List String) :
    Except String (List GlobText) :=
  let globs := texts.map GlobText.mk
  match compileGlobs meaning globs with
  | .ok _ => .ok globs
  | .error error => .error error.text

/-- Folders that are asked for. -/
structure Folders where
  folders : List String := ["src"]
  strict : Bool := false

/-- The shape of the options of `Rule.folderStructure`. -/
def foldersShape : RecordShape Folders where
  name := "FolderStructureOptions"
  fields := [
    ⟨"folders", [], fun depth node options => do
      return { options with folders := ← node.asTexts depth }⟩,
    ⟨"strict", [], fun _ node options => do
      return { options with strict := ← node.asSwitch }⟩]
  isClosed := true

/-- The folders that a setting of `Rule.folderStructure` asks for. A list stands for its
folders. -/
def askedFolders : RuleSetting → Except String Folders
  | .disabled | .enabled => .ok {}
  | .structured (.array items) => do
    return { folders := ← readSetting Node.asTexts (.array items) }
  | .structured value => readSetting (foldersShape.read {}) value
  | .shorthand text => .error (unexpectedText text)

/-- Options of `Rule.folderStructure`. -/
def ofFolderStructure (setting : RuleSetting) : Except String RuleOptions := do
  let asked ← askedFolders setting
  return folders (← checkGlobs id asked.folders) asked.strict

/-- The parent folders that a setting of `Rule.parentFolder` allows. -/
def askedParents : RuleSetting → Except String (List String)
  | .shorthand pattern => .ok [pattern]
  | .structured value => readSetting Node.asTexts value
  | .disabled | .enabled => .error "a list of parent folder patterns is required"

/-- Options of `Rule.parentFolder`. -/
def ofParentFolder (setting : RuleSetting) : Except String RuleOptions := do
  let patterns ← askedParents setting
  return parents (← checkGlobs Glob.atAnyDepth patterns)

/-- Workflow files that are asked for. -/
structure Workflows where
  required : Bool := false
  suffixes : List String := [""]

/-- The shape of the options of `Rule.workflowNames`. -/
def workflowsShape : RecordShape Workflows where
  name := "WorkflowPrefixOptions"
  fields := [
    ⟨"required", [], fun _ node options => do
      return { options with required := ← node.asSwitch }⟩,
    ⟨"suffixes", [], fun depth node options => do
      return { options with suffixes := ← node.asTexts depth }⟩]
  isClosed := true

/-- Options of `Rule.workflowNames`. -/
def ofWorkflowNames (setting : RuleSetting) : Except String RuleOptions := do
  let options : Workflows ← match setting with
    | .disabled | .enabled => .ok {}
    | .shorthand suffix => .ok { suffixes := [suffix] }
    | .structured value => readSetting (workflowsShape.read {}) value
  if options.suffixes.isEmpty then throw "at least one suffix is required"
  return workflows options.required options.suffixes

/-- The options that a setting of a rule stands for, or why it stands for none. -/
def ofSetting (setting : RuleSetting) : Rule → Except String RuleOptions
  | .packageName => ofPackageName setting
  | .serviceName | .uniqueName => ofFlag setting
  | .namePattern => ofNamePattern setting
  | .requiredFiles => ofRequiredFiles setting
  | .folderStructure => ofFolderStructure setting
  | .parentFolder => ofParentFolder setting
  | .workflowNames => ofWorkflowNames setting
  | .sameContents => do return contents (← SameContents.Options.ofSetting setting)

end RuleOptions

/-- The options of a rule under a setting. -/
def Rule.options (rule : Rule) (setting : RuleSetting) : Except Failure RuleOptions :=
  match RuleOptions.ofSetting setting rule with
  | .ok options => .ok options
  | .error reason => .error (.invalidRuleConfig rule.name reason)

end Conventions
