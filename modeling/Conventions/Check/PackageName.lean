import Conventions.Check.Naming
import Conventions.Json.Record

/-!
# Names of packages

The name in a package manifest has to end with the name of the module. The fix sets it
and keeps everything else as it is.
-/

namespace Conventions.PackageName

/-- The attribute that is checked. -/
def nameKey : String := "name"

/-- The name in a manifest; empty if there is none. -/
def nameOf (manifest : Json) : String :=
  ((manifest.field? nameKey).bind Json.asString?).getD ""

/-- Whether a manifest is in order for a module. -/
def isNamed (module : RepoModule) (manifest : Json) : Bool :=
  Text.endsWith (nameOf manifest) module.name

/-- The manifest with the name of a module, if it is an object. -/
def named? (module : RepoModule) (manifest : Json) : Option Json :=
  manifest.asObject?.map fun fields =>
    .object (Entries.insert nameKey (.string module.name) fields)

/-- What the text of a manifest means for a module. -/
def judge (module : RepoModule) (text : String) : Verdict :=
  match Json.parse text with
  | .error fault => .unreadable fault.text
  | .ok manifest =>
    if isNamed module manifest then .inOrder
    else match named? module manifest with
      | some named => .mendable named.indented
      | none => .unmendable "package.json is not an object"

/-- The manifest of a module, as the options of the rule name it. -/
def fileName? (module : RepoModule) : Option String :=
  match module.options? .packageName with
  | some (.packageFile name) => some name
  | _ => none

/-- The check of package manifests. -/
def nameCheck : NameCheck where
  rule := .packageName
  key := nameKey
  format := "json"
  fileName?
  judge

end Conventions.PackageName
