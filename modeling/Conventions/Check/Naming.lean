import Conventions.Check.Basic

/-!
# Names in files

Some files of a module carry its name. A check of such a file tells whether the name is
right, and can put the right one in its place.
-/

namespace Conventions

/-- What the text of a file means to a check of the name in it. -/
inductive Verdict where
  /-- The text is no document. -/
  | unreadable (reason : String)
  /-- The name is right. -/
  | inOrder
  /-- The name is not right, and a text with the right one is known. -/
  | mendable (text : String)
  /-- The name is not right, and there is a reason why it cannot be set. -/
  | unmendable (reason : String)
  deriving DecidableEq, Repr

/-- A check of the name that a file of a module carries. -/
structure NameCheck where
  rule : Rule
  /-- The attribute that holds the name. -/
  key : String
  /-- What the files are called in messages. -/
  format : String
  /-- The file that is checked, by its path in the module. -/
  fileName? : RepoModule → Option String
  /-- What a text means for a module. -/
  judge : RepoModule → String → Verdict

namespace NameCheck

variable (check : NameCheck)

/-- What is said of a file whose name is not right. -/
def demand (module : RepoModule) : String :=
  "Attribute '" ++ check.key ++ "' should be '" ++ module.name ++ "'"

/-- What is said of a file that has been put in order. -/
def remark (module : RepoModule) : String :=
  "Attribute '" ++ check.key ++ "' set to '" ++ module.name ++ "'"

/-- A finding about a file of a module. -/
def finding (module : RepoModule) (file : RepoPath) (valid : Bool) (message : String) : Finding :=
  (Finding.of check.rule valid file.text message).about module

/-- The finding about a file whose name is not right. It is in order once it is fixed. -/
def misnamed (module : RepoModule) (file : RepoPath) (fix : Fix) : Finding :=
  (check.finding module file (fix.state == .fixed) (check.demand module)).withFix fix

/-- What a file means for a module. -/
def verdict (workspace : Workspace) (module : RepoModule) (file : RepoPath) : Verdict :=
  match workspace.read file with
  | .error error => .unreadable error.text
  | .ok text => check.judge module text

/-- Checks a file of a module, if it is there. -/
def checkFile (fix : Bool) (workspace : Workspace) (module : RepoModule) (file : RepoPath) :
    Findings :=
  if !workspace.isFile file then ([], workspace)
  else match check.verdict workspace module file with
    | .unreadable reason =>
      ([check.finding module file false
        ("Couldn't load " ++ check.format ++ " file: " ++ reason)], workspace)
    | .inOrder =>
      ([check.finding module file true ("\"" ++ check.key ++ "\" is valid")], workspace)
    | .mendable text =>
      if fix then
        let (fix, workspace) := writeFix workspace file text (check.remark module)
        ([check.misnamed module file fix], workspace)
      else ([check.misnamed module file { state := .possible }], workspace)
    | .unmendable reason =>
      let fix : Fix := if fix then ⟨.notPossible, some reason⟩ else { state := .possible }
      ([check.misnamed module file fix], workspace)

/-- Checks a module. -/
def checkModule (fix : Bool) (workspace : Workspace) (module : RepoModule) : Findings :=
  match check.fileName? module with
  | some name => check.checkFile fix workspace module (module.file name)
  | none => ([], workspace)

end NameCheck

end Conventions
