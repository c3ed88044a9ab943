import Conventions.Config.Basic
import Conventions.Failure

/-!
# Presets

Named configurations that a config file can extend. A preset may extend others;
its own settings are laid over theirs.
-/

namespace Conventions.Preset

/-- The name of the preset with the general rules. -/
def basic : String := "monolint:basic"

/-- The name of the preset for modules with a package manifest. -/
def packageJson : String := "monolint:packagejson"

/-- The name of the preset for modules with a service description. -/
def serverless : String := "monolint:serverless"

/-- The name of the preset for modules with build targets. -/
def makefile : String := "monolint:makefile"

/-- The name of the preset that bundles the others. -/
def recommended : String := "monolint:recommended"

/-- The names of all presets, from the least dependent one on. -/
def names : List String := [basic, packageJson, serverless, makefile, recommended]

/-- Rules that are switched on. -/
def switchedOn (rules : List String) : Entries RuleSetting :=
  Entries.sorted (rules.map fun rule => (rule, .enabled))

/-- A preset as it is declared. -/
def declared? (name : String) : Option Config :=
  if name = basic then
    some { useGitignore? := some true,
           rules? := some (switchedOn
             ["module-name-regex", "module-unique-name", "module-same-contents"]) }
  else if name = packageJson then
    some { markers? := some ["package.json"],
           rules? := some (switchedOn ["packagejson-same-name"]) }
  else if name = serverless then
    some { markers? := some ["serverless.yml"],
           rules? := some (switchedOn ["serverless-same-name"]) }
  else if name = makefile then some {}
  else if name = recommended then
    some { extends? := some [basic, packageJson, serverless, makefile] }
  else none

/-- The settings of a preset that was reached through a chain of others, with `fuel`
links to go at most. -/
def resolveFrom (chain : List String) : Nat → String → String → Except Failure Config
  | 0, name, _ => .error (.presetCycle name (" -> ".intercalate (chain ++ [name])))
  | fuel + 1, name, referencedFrom =>
    if name ∈ chain then .error (.presetCycle name (" -> ".intercalate (chain ++ [name])))
    else match declared? name with
      | none => .error (.unknownPreset name referencedFrom)
      | some preset => do
        let extended ← (preset.extends?.getD []).mapM fun parent =>
          resolveFrom (chain ++ [name]) fuel parent name
        return (extended.foldl Config.merge {}).merge preset

/-- The settings of a preset. No chain of different presets is longer than their
number. -/
def resolve (name referencedFrom : String) : Except Failure Config :=
  resolveFrom [] (names.length + 1) name referencedFrom

end Conventions.Preset
