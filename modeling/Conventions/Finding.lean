import Conventions.Json.Printer
import Conventions.Modules.Basic

/-!
# Findings

What a rule finds about one resource: whether it is in order, and what has become of
an attempt to put it in order.
-/

namespace Conventions

/-- What can be said about a fix. -/
inductive FixState where
  /-- The fix was written. -/
  | fixed
  /-- There is a fix, but none was asked for. -/
  | possible
  /-- There is no fix, or it could not be written. -/
  | notPossible
  deriving DecidableEq, Repr, Inhabited

/-- The name of a state. -/
def FixState.name : FixState → String
  | fixed => "fixed"
  | possible => "possible"
  | notPossible => "not-possible"

/-- The outcome of a fix. -/
structure Fix where
  state : FixState
  message? : Option String := none
  deriving DecidableEq, Repr, Inhabited

/-- The module that a finding is about. -/
structure ModuleRef where
  name : String
  path : RepoPath
  deriving DecidableEq, Repr, Inhabited

/-- A finding. -/
structure Finding where
  resource : String
  valid : Bool
  rule : String
  message? : Option String := none
  module? : Option ModuleRef := none
  fix? : Option Fix := none
  deriving DecidableEq, Repr, Inhabited

/-- The reference to a module. -/
def RepoModule.ref (module : RepoModule) : ModuleRef := ⟨module.name, module.path⟩

namespace Finding

/-- A finding that a resource is in order, or not. -/
def of (rule : Rule) (valid : Bool) (resource message : String) : Finding where
  resource
  valid
  rule := rule.name
  message? := some message

/-- The finding as one about a module. -/
def about (module : RepoModule) (finding : Finding) : Finding :=
  { finding with module? := some module.ref }

/-- The finding with the outcome of a fix. -/
def withFix (fix : Fix) (finding : Finding) : Finding := { finding with fix? := some fix }

/-- Whether the fix of a finding is in a state. -/
def hasFix (state : FixState) (finding : Finding) : Bool :=
  finding.fix?.any fun fix => fix.state == state

/-- Whether it was fixed. -/
def isFixed (finding : Finding) : Bool := finding.hasFix .fixed

/-- Whether it could be fixed. -/
def isFixable (finding : Finding) : Bool := finding.hasFix .possible

/-- The order of findings in a report: by resource, then by rule. -/
def notAfter (a b : Finding) : Bool :=
  !pairBefore textBefore textBefore (b.resource, b.rule) (a.resource, a.rule)

/-- An optional field of an object. -/
def optional {α : Type} (name : String) (toJson : α → Json) (value : Option α) :
    List (String × Json) :=
  value.toList.map fun value => (name, toJson value)

/-- The outcome of a fix as a value. -/
def fixJson (fix : Fix) : Json :=
  .object (("type", .string fix.state.name) :: optional "message" .string fix.message?)

/-- The reference to a module as a value. -/
def moduleJson (module : ModuleRef) : Json :=
  .object [("name", .string module.name), ("path", .string module.path.text)]

/-- The finding as a value. -/
def toJson (finding : Finding) : Json :=
  .object <|
    [("resource", Json.string finding.resource), ("valid", Json.bool finding.valid),
      ("rule", Json.string finding.rule)] ++
    optional "message" .string finding.message? ++
    optional "module" moduleJson finding.module? ++
    optional "fix_result" fixJson finding.fix?

end Finding

end Conventions
