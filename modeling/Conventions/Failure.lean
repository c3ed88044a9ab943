import Conventions.Glob.Parser
import Conventions.Workspace.Basic

/-!
# Failures

Everything that can end a run, by cause. Those that come from reading or
interpreting the configuration form a class of their own.
-/

namespace Conventions

/-- Why a run ends without a result. -/
inductive Failure where
  | baseDirNotFound (path : RepoPath)
  /-- A config file that cannot be read as one. -/
  | unreadableConfig (file : RepoPath) (reason : String)
  | unknownRule (rule : String) (file : RepoPath)
  | markersBelowRoot (file : RepoPath)
  | unknownPreset (name referencedFrom : String)
  | presetCycle (name chain : String)
  | missingRules (file : RepoPath)
  | invalidRuleConfig (rule reason : String)
  | outsideRoot (path root : RepoPath)
  /-- A file whose contents cannot be read in its format. -/
  | unreadableContent (file : RepoPath) (reason : String)
  | unsupportedFormat (file : RepoPath)
  | invalidSelector (selector reason : String)
  | access (error : AccessError)
  | glob (error : Glob.Error)
  | regex (reason : String)
  deriving DecidableEq, Repr

namespace Failure

/-- The message of a failure. -/
def message : Failure → String
  | baseDirNotFound path => "Monorepo base dir " ++ path.text ++ " not found"
  | unreadableConfig file reason => "Error loading " ++ file.text ++ ": " ++ reason
  | unknownRule rule file =>
    "Rule '" ++ rule ++ "' is not valid (referenced in " ++ file.text ++ ")"
  | markersBelowRoot file =>
    "'module-markers' is only valid on monorepo root level configuration (" ++ file.text ++ ")"
  | unknownPreset name referencedFrom =>
    "Cannot find extension '" ++ name ++ "' defined in " ++ referencedFrom
  | presetCycle name chain => "Extension '" ++ name ++ "' extends itself through " ++ chain
  | missingRules file => "Config has no rule configurations (" ++ file.text ++ ")"
  | invalidRuleConfig rule reason =>
    "Invalid configuration for rule '" ++ rule ++ "': " ++ reason
  | outsideRoot path root =>
    "Path " ++ path.text ++ " is not inside monorepo base dir " ++ root.text
  | unreadableContent file reason => "Couldn't parse " ++ file.text ++ ": " ++ reason
  | unsupportedFormat file =>
    "Unsupported file format for structured comparison: " ++ file.text
  | invalidSelector selector reason => "Invalid selector '" ++ selector ++ "': " ++ reason
  | access error => error.text
  | glob error => error.text
  | regex reason => reason

/-- Whether the failure comes from reading or interpreting the configuration. -/
def isConfigError : Failure → Bool
  | unreadableConfig .. | unknownRule .. | markersBelowRoot .. | unknownPreset ..
  | presetCycle .. | missingRules .. | invalidRuleConfig .. | outsideRoot .. => true
  | _ => false

end Failure

end Conventions
