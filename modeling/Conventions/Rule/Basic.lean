import Conventions.Json.Printer
import Conventions.Text.Blank

/-!
# Rules

The rules that a repository can be checked by, with their names and the texts that
describe them.
-/

namespace Conventions

/-- A rule. -/
inductive Rule where
  /-- The name in the package manifest ends with the module's name. -/
  | packageName
  /-- The service in the service description is the module's name. -/
  | serviceName
  /-- The module's name matches a regular expression. -/
  | namePattern
  /-- No other module has the same name. -/
  | uniqueName
  /-- The module has certain files. -/
  | requiredFiles
  /-- The module has certain folders, and maybe no others. -/
  | folderStructure
  /-- The folder that holds the module matches a glob. -/
  | parentFolder
  /-- Workflow files are named after modules. -/
  | workflowNames
  /-- Files are similar to those of a reference module. -/
  | sameContents
  deriving DecidableEq, Repr, Inhabited

/-- A setting of a rule that is shown as an example. -/
structure RuleExample where
  description : String
  setting : Json

namespace Rule

/-- All rules, in the order in which they run. -/
def all : List Rule :=
  [packageName, serviceName, namePattern, uniqueName, requiredFiles, folderStructure,
    parentFolder, workflowNames, sameContents]

/-- The name of a rule in configurations and results. -/
def name : Rule → String
  | packageName => "packagejson-same-name"
  | serviceName => "serverless-same-name"
  | namePattern => "module-name-regex"
  | uniqueName => "module-unique-name"
  | requiredFiles => "module-required-files"
  | folderStructure => "module-folder-structure"
  | parentFolder => "module-parent-folder"
  | workflowNames => "gh-workflow-module-prefix"
  | sameContents => "module-same-contents"

/-- The rule with a given name. -/
def ofName? (name : String) : Option Rule := all.find? fun rule => rule.name == name

/-- What a rule checks. -/
def description : Rule → String
  | packageName =>
    "Check if \"name\" attribute of the package.json file equals (or ends with) the name of the module"
  | serviceName =>
    "Check if \"service\" attribute of the serverless.yml file equals the name of the module"
  | namePattern => "Check if the module name matches a regex"
  | uniqueName =>
    "Check that module names are unique across the whole monorepo, regardless of the folder they are in"
  | requiredFiles => "Check if all the required files are present in the module folder"
  | folderStructure => "Check whether the folder structure is present in the modules"
  | parentFolder =>
    "Check whether all module folders have an allowed parent folder, using glob path patterns"
  | workflowNames =>
    "Check if GitHub Actions workflow files are prefixed by the name of a module"
  | sameContents =>
    "Check if files (or parts of structured files) are similar across modules, compared to a reference module"

/-- A list of texts as a value. -/
def texts (items : List String) : Json := .array (items.map .string)

/-- The example that switches a rule off. -/
def off : RuleExample := ⟨"Deactivates this rule", .bool false⟩

/-- Examples of settings. -/
def examples : Rule → List RuleExample
  | packageName => [
      off,
      ⟨"Check a different file",
        .object [("package-json-file", .string "package-lock.json")]⟩]
  | serviceName => [off]
  | namePattern => [
      ⟨"Activates this rule with default regex \"[a-z]+[a-z0-9-_]\x7b4,12\x7d\"", .bool true⟩,
      off,
      ⟨"Module names should be suffixed by \"-svc\" or \"-web\"", .string ".+(-svc|-web)"⟩]
  | uniqueName => [⟨"Disable this rule", .bool false⟩]
  | requiredFiles => [
      ⟨"Require README.md in every module", .bool true⟩,
      ⟨"Require a custom list of files", texts ["README.md", "Makefile", "package.json"]⟩,
      off]
  | folderStructure => [
      off,
      ⟨"Activates this rule using default folders (defaults: `[\"src\"]`)", .bool true⟩,
      ⟨"Loosely requires module structure. The module should contain at least this set of folders, but can still have others.",
        .object [("strict", .bool false), ("folders", texts ["src", "docs", "libs"])]⟩,
      ⟨"Strictly requires module structure. No extra folders allowed.",
        .object [("strict", .bool true),
          ("folders", texts ["src/test", "src/**/utils", "src/libs/**/release"])]⟩]
  | parentFolder => [
      off,
      ⟨"All modules should be inside 'packages', 'apps', 'libs' or 'services'",
        texts ["packages", "apps", "libs", "services"]⟩,
      ⟨"All modules should be in a folder named 'packages' that is a descendant of a folder named 'apps'",
        texts ["apps/**/packages"]⟩]
  | workflowNames => [
      ⟨"Workflow file names must start with a module name", .bool true⟩,
      off,
      ⟨"Each module must have '-dev' and '-prd' workflows",
        .object [("required", .bool true), ("suffixes", texts ["-dev", "-prd"])]⟩]
  | sameContents => [
      ⟨"Compare the default files against an automatically chosen reference module", .bool true⟩,
      ⟨"Use 'mod1-svc' as reference", .string "mod1-svc"⟩,
      ⟨"Require 90% similarity of the build scripts in package.json and skip LICENSE",
        .object [("files", .object [
          ("LICENSE", .bool false),
          ("package.json", .object [
            ("min-similarity", .number (.whole 90)),
            ("selectors", .object [
              ("scripts.build", .object [("required", .bool true)])])])])]⟩]

/-- The length of the longest name. -/
def nameWidth : Nat := (all.map fun rule => rule.name.length).foldl max 0

/-- The lines on one rule: its name and what it checks, and its examples if asked for. -/
def catalogueEntry (withExamples : Bool) (rule : Rule) : List String :=
  (Text.padRight nameWidth rule.name ++ "  " ++ rule.description) ::
    if withExamples then
      rule.examples.flatMap fun ex =>
        ["    " ++ ex.description, "      \"" ++ rule.name ++ "\": " ++ ex.setting.compact]
    else []

/-- The catalogue of all rules. -/
def catalogue (withExamples : Bool) : String :=
  String.join ((all.flatMap (catalogueEntry withExamples)).map (· ++ "\n"))

end Rule

end Conventions
