import Conventions.Rule.Options

/-!
# Modules

A module is a directory with a marker file. It comes with the configuration that
applies to it, and with the options of the rules that are on there.
-/

namespace Conventions

/-- A rule that is on, with its setting and the options that this stands for. -/
structure Binding where
  rule : Rule
  setting : RuleSetting
  options : RuleOptions

/-- The bindings of the rules that are on, in the order of their names. -/
def bindRules (source : RepoPath) : List (String × RuleSetting) → Except Failure (List Binding)
  | [] => .ok []
  | (name, setting) :: rest =>
    if setting.isEnabled then do
      match Rule.ofName? name with
      | none => throw (.unknownRule name source)
      | some rule =>
        let options ← rule.options setting
        return ⟨rule, setting, options⟩ :: (← bindRules source rest)
    else bindRules source rest

/-- A module of a repository. -/
structure RepoModule where
  path : RepoPath
  name : String
  config : Config
  bindings : List Binding

namespace RepoModule

/-- The options of a rule, if it is on. -/
def options? (module : RepoModule) (rule : Rule) : Option RuleOptions :=
  (module.bindings.find? fun binding => binding.rule == rule).map (·.options)

/-- Whether a rule is on. -/
def ruleEnabled (module : RepoModule) (rule : Rule) : Bool :=
  module.bindings.any fun binding => binding.rule == rule

/-- The path of a file of the module. -/
def file (module : RepoModule) (name : String) : RepoPath := module.path.join name

end RepoModule

end Conventions
