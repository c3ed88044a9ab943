import Conventions.SameContents.Comparison

/-!
# Reference modules

Modules with the same options form a group, which is compared with one reference
module. The options name it, or it is picked from the group: of the modules that have
the most of what is compared, the first that leaves the fewest problems.
-/

namespace Conventions.SameContents

/-- Modules that have the same options. -/
structure Group where
  options : Options
  members : List RepoModule

/-- Adds a module to the group with its options; if there is none, a new group comes
last. -/
def addTo (options : Options) (module : RepoModule) : List Group → List Group
  | [] => [⟨options, [module]⟩]
  | group :: rest =>
    if group.options.same options then { group with members := group.members ++ [module] } :: rest
    else group :: addTo options module rest

/-- The options of a module for comparing contents, if the rule is on. -/
def optionsOf? (module : RepoModule) : Option Options :=
  match module.options? .sameContents with
  | some (.contents options) => some options
  | _ => none

/-- The groups of modules, in the order of their first members. -/
def groupsOf (modules : List RepoModule) : List Group :=
  modules.foldl (fun groups module =>
    match optionsOf? module with
    | some options => addTo options module groups
    | none => groups) []

/-- The modules that have the most of what is compared, of those that were counted. A
module that has nothing is not among them. -/
structure Leaders where
  most : Nat
  members : List RepoModule

/-- What is known before any module was counted. -/
def Leaders.none : Leaders := ⟨0, []⟩

/-- Counts one more module. If it has more than all before it, only it is left. -/
def Leaders.add (count : Nat) (module : RepoModule) (leaders : Leaders) : Leaders :=
  let leaders : Leaders := if leaders.most < count then ⟨count, []⟩ else leaders
  if count = leaders.most ∧ 0 < count then
    { leaders with members := leaders.members ++ [module] }
  else leaders

/-- What comes of comparing with a module. -/
structure Trial where
  reference : RepoModule
  findings : List Finding

/-- How many problems a comparison leaves. -/
def Trial.problems (trial : Trial) : Nat := trial.findings.countP (!·.valid)

/-- The best comparison so far and one more: the new one has to leave fewer problems. -/
def Trial.better (best? : Option Trial) (trial : Trial) : Option Trial :=
  match best? with
  | some best => if trial.problems < best.problems then some trial else some best
  | none => some trial

section

variable (round : Similarity.Rounding) (workspace : Workspace)

/-- Compares a group with the module of a given name. Just one of all modules has to
have this name. -/
def compareNamed (modules : List RepoModule) (name : String) (group : Group) : List Finding :=
  match modules.filter (·.name == name) with
  | [reference] => compareAll round workspace group.options group.members reference
  | [] => [refuse name ("Reference module '" ++ name ++ "' not found")]
  | _ => [refuse name
      ("Reference name '" ++ name ++
        "' cannot be used because it points to more than one module")]

/-- How much a module has of what is compared. -/
def ownCount (options : Options) (module : RepoModule) : Nat :=
  (compareFiles round workspace options module module).countP (·.valid)

/-- The members that have the most of what is compared. -/
def leaders (group : Group) : Leaders :=
  group.members.foldl (fun leaders module =>
    leaders.add (ownCount round workspace group.options module) module) Leaders.none

/-- The comparison of a group with one of its modules. -/
def trial (group : Group) (reference : RepoModule) : Trial :=
  ⟨reference, compareAll round workspace group.options group.members reference⟩

/-- Compares a group with the first of its leaders that leaves the fewest problems. -/
def compareBest (group : Group) : List Finding :=
  let trials := (leaders round workspace group).members.map (trial round workspace group)
  match trials.foldl Trial.better none with
  | some best => best.findings
  | none => []

/-- Compares a group with its reference. -/
def compareGroup (modules : List RepoModule) (group : Group) : List Finding :=
  match group.options.reference? with
  | some name => compareNamed round workspace modules name group
  | none => compareBest round workspace group

/-- Compares those of all modules that are to be checked. -/
def check (modules checked : List RepoModule) : List Finding :=
  (groupsOf checked).flatMap (compareGroup round workspace modules)

end

end Conventions.SameContents
