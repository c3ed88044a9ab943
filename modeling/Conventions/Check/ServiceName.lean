import Conventions.Check.Naming
import Conventions.Yaml.Printer
import Conventions.Yaml.Value

/-!
# Names of services

The service in a service description has to be the name of the module. The fix sets it
and writes the whole description anew.
-/

namespace Conventions.ServiceName

/-- The attribute that is checked. -/
def nameKey : String := "service"

/-- The file that is checked. -/
def fileName : String := "serverless.yml"

/-- Whether a description is in order for a module. -/
def isNamed (module : RepoModule) (description : Yaml) : Bool :=
  (description.field? nameKey).bind Yaml.asString? == some module.name

/-- The description with the name of a module, if it is a mapping. -/
def named? (module : RepoModule) (description : Yaml) : Option Yaml :=
  Yaml.withField? nameKey (.string module.name) description

/-- What the text of a description means for a module. -/
def judge (module : RepoModule) (text : String) : Verdict :=
  match Yaml.parse text with
  | .error problem => .unreadable problem.text
  | .ok description =>
    if isNamed module description then .inOrder
    else match named? module description with
      | some named => .mendable named.text
      | none => .unmendable "serverless.yml is not a mapping"

/-- The check of service descriptions. -/
def nameCheck : NameCheck where
  rule := .serviceName
  key := nameKey
  format := "yml"
  fileName? := fun _ => some fileName
  judge

end Conventions.ServiceName
