import Conventions.Lint.Basic
import Conventions.Proofs.Check.Naming
import Conventions.Proofs.Sorting

/-!
# What a pass is made of

Two rules check names in files and may write them. All other rules run behind them and only
read. So a pass is a run of name checks over one list of files, followed by findings about
the workspace that this leaves.
-/

namespace Conventions

/-! ### Rules that check names -/

/-- The files of modules that a check looks at. -/
def NameCheck.filesOf (check : NameCheck) (modules : List RepoModule) : List NamedFile :=
  modules.filterMap fun module =>
    (check.fileName? module).map fun name => ⟨check, module, module.file name⟩

/-- Checking modules is checking their files. -/
theorem NameCheck.checkEach_checkModule (check : NameCheck) (fix : Bool) (workspace : Workspace)
    (modules : List RepoModule) : checkEach (check.checkModule fix) workspace modules =
      checkNames fix workspace (check.filesOf modules) := by
  induction modules generalizing workspace with
  | nil => rfl
  | cons module rest ih =>
    unfold NameCheck.filesOf at ih ⊢
    cases hname : check.fileName? module with
    | none =>
      have hskip : check.checkModule fix workspace module = ([], workspace) := by
        simp only [checkModule, hname]
      rw [List.filterMap_cons_none (by rw [hname]; rfl), ← ih, checkEach, hskip]
      rfl
    | some name =>
      have hfile : check.checkModule fix workspace module =
          NamedFile.run fix workspace ⟨check, module, module.file name⟩ := by
        simp only [checkModule, hname, NamedFile.run]
      rw [List.filterMap_cons_some (by rw [hname]; rfl), checkNames_cons, ← ih, checkEach, hfile]

/-- Checks of more files go on where the first ones end. -/
theorem checkNames_append (fix : Bool) (workspace : Workspace) (files more : List NamedFile) :
    checkNames fix workspace (files ++ more) =
      ((checkNames fix workspace files).1 ++
          (checkNames fix (checkNames fix workspace files).2 more).1,
        (checkNames fix (checkNames fix workspace files).2 more).2) := by
  induction files generalizing workspace with
  | nil => rfl
  | cons file rest ih => rw [List.cons_append, checkNames_cons, ih, checkNames_cons,
      List.append_assoc]

/-- All files that are checked for names, in the order of the checks. -/
def Scope.namedFiles (scope : Scope) : List NamedFile :=
  PackageName.nameCheck.filesOf (scope.modules.filter (·.ruleEnabled .packageName)) ++
    ServiceName.nameCheck.filesOf (scope.modules.filter (·.ruleEnabled .serviceName))

/-- The rule on names of packages checks the manifests of the modules that have it on. -/
theorem Rule.run_packageName (scope : Scope) (workspace : Workspace) :
    Rule.packageName.run scope workspace =
      let files := PackageName.nameCheck.filesOf (scope.modules.filter (·.ruleEnabled .packageName))
      (.ok (checkNames scope.fix workspace files).1, (checkNames scope.fix workspace files).2) := by
  simp only [Rule.run, Rule.checkBase, ite_self, Rule.checkModules,
    NameCheck.checkEach_checkModule, List.nil_append]

/-- The rule on names of services checks the descriptions of the modules that have it on. -/
theorem Rule.run_serviceName (scope : Scope) (workspace : Workspace) :
    Rule.serviceName.run scope workspace =
      let files := ServiceName.nameCheck.filesOf (scope.modules.filter (·.ruleEnabled .serviceName))
      (.ok (checkNames scope.fix workspace files).1, (checkNames scope.fix workspace files).2) := by
  simp only [Rule.run, Rule.checkBase, ite_self, Rule.checkModules,
    NameCheck.checkEach_checkModule, List.nil_append]

/-! ### Rules that only read -/

/-- The rules that do not write, in the order in which they run. -/
def Rule.readers : List Rule :=
  [namePattern, uniqueName, requiredFiles, folderStructure, parentFolder, workflowNames,
    sameContents]

/-- What a rule says about modules is put behind what it says about the repository as a
whole. -/
theorem Rule.run_of_base {rule : Rule} {scope : Scope} {workspace : Workspace}
    {found : List Finding}
    (h : (if scope.config.ruleEnabled rule.name then rule.checkBase scope workspace
      else .ok []) = .ok found) :
    rule.run scope workspace =
      let checked := rule.checkModules scope workspace (scope.modules.filter (·.ruleEnabled rule))
      (checked.1.map (found ++ ·), checked.2) := by
  simp only [Rule.run, h]
  rcases rule.checkModules scope workspace _ with ⟨failure | more, left⟩
  · rfl
  · rfl

/-- A rule that does not write leaves the workspace as it is. -/
theorem Rule.run_of_mem_readers {rule : Rule} (h : rule ∈ readers) (scope : Scope)
    (workspace : Workspace) : (rule.run scope workspace).2 = workspace := by
  cases hbase : if scope.config.ruleEnabled rule.name then rule.checkBase scope workspace
      else .ok [] with
  | error failure => simp only [Rule.run, hbase]
  | ok found =>
    rw [Rule.run_of_base hbase]
    simp only [readers, List.mem_cons, List.not_mem_nil, or_false] at h
    rcases h with rfl | rfl | rfl | rfl | rfl | rfl | rfl <;> rfl

/-- A rule that does not write takes no notice of whether problems are to be fixed. -/
theorem Rule.run_withFix_of_mem_readers {rule : Rule} (h : rule ∈ readers) (scope : Scope)
    (fix : Bool) (workspace : Workspace) :
    rule.run { scope with fix } workspace = rule.run scope workspace := by
  simp only [readers, List.mem_cons, List.not_mem_nil, or_false] at h
  rcases h with rfl | rfl | rfl | rfl | rfl | rfl | rfl <;> rfl

/-- Rules that do not write leave the workspace as it is. -/
theorem runRules_of_subset_readers {rules : List Rule} (h : ∀ rule ∈ rules, rule ∈ Rule.readers)
    (scope : Scope) (workspace : Workspace) : (runRules scope workspace rules).2 = workspace := by
  induction rules with
  | nil => rfl
  | cons rule rest ih =>
    have hrule := Rule.run_of_mem_readers (h rule (by simp)) scope workspace
    have hrest := ih fun other hother => h other (List.mem_cons_of_mem _ hother)
    unfold runRules
    generalize hrun : rule.run scope workspace = outcome at hrule
    obtain ⟨result, after⟩ := outcome
    obtain rfl : after = workspace := hrule
    cases result with
    | error failure => rfl
    | ok found =>
      rcases hmore : runRules scope after rest with ⟨failure | more, left⟩
      · rw [hmore] at hrest
        simpa only [hmore] using hrest
      · rw [hmore] at hrest
        simpa only [hmore] using hrest

/-- Rules that do not write take no notice of whether problems are to be fixed. -/
theorem runRules_withFix_of_subset_readers {rules : List Rule}
    (h : ∀ rule ∈ rules, rule ∈ Rule.readers) (scope : Scope) (fix : Bool)
    (workspace : Workspace) :
    runRules { scope with fix } workspace rules = runRules scope workspace rules := by
  induction rules generalizing workspace with
  | nil => rfl
  | cons rule rest ih =>
    unfold runRules
    rw [Rule.run_withFix_of_mem_readers (h rule (by simp))]
    simp only [ih fun other hother => h other (List.mem_cons_of_mem _ hother)]

/-! ### All rules -/

/-- All rules have a result if those that only read have one on the workspace that the name
checks leave. -/
theorem runRules_all (scope : Scope) (workspace : Workspace) :
    runRules scope workspace Rule.all =
      let checked := checkNames scope.fix workspace scope.namedFiles
      ((runRules scope checked.2 Rule.readers).1.map (checked.1 ++ ·), checked.2) := by
  have hall : Rule.all = .packageName :: .serviceName :: Rule.readers := rfl
  rw [hall]
  simp only [runRules, Rule.run_packageName, Rule.run_serviceName, Scope.namedFiles,
    checkNames_append]
  generalize checkNames scope.fix workspace _ = packages
  generalize checkNames scope.fix packages.2 _ = services
  have hread := runRules_of_subset_readers (fun _ h => h) scope services.2
  generalize runRules scope services.2 Rule.readers = outcome at hread ⊢
  obtain ⟨result, left⟩ := outcome
  obtain rfl : left = services.2 := hread
  cases result with
  | error failure => rfl
  | ok more => simp [Except.map]

/-! ### A pass -/

/-- What the rules see does not depend on whether problems are to be fixed. -/
theorem Scope.load_withFix {workspace : Workspace} {base : RepoPath} {configFile : String}
    {fix : Bool} {scope : Scope} (h : Scope.load workspace base configFile fix = .ok scope)
    (other : Bool) : Scope.load workspace base configFile other = .ok { scope with fix := other } ∧
      scope.fix = fix := by
  unfold Scope.load at h ⊢
  split at h
  · next hbase =>
    obtain ⟨resolution, hresolution, h⟩ := bind_eq_ok_iff.mp h
    obtain ⟨modules, hmodules, h⟩ := bind_eq_ok_iff.mp h
    cases h
    rw [if_pos hbase]
    exact ⟨bind_eq_ok_iff.mpr ⟨resolution, hresolution, bind_eq_ok_iff.mpr ⟨modules, hmodules, rfl⟩⟩,
      rfl⟩
  · cases h

/-- A pass with a result: what the rules see, what the name checks find, what the other
rules find behind them, and all findings in the order of a report. -/
theorem lint_eq_ok_iff {workspace left : Workspace} {base : RepoPath} {configFile : String}
    {fix : Bool} {findings : List Finding} :
    lint workspace base configFile fix = (.ok findings, left) ↔
      ∃ scope more, Scope.load workspace base configFile fix = .ok scope ∧
        left = (checkNames fix workspace scope.namedFiles).2 ∧
        (runRules scope left Rule.readers).1 = .ok more ∧
        findings = sortBy Finding.notAfter
          ((checkNames fix workspace scope.namedFiles).1 ++ more) := by
  unfold lint
  cases hload : Scope.load workspace base configFile fix with
  | error failure => simp
  | ok scope =>
    have hfix : scope.fix = fix := (Scope.load_withFix hload fix).2
    simp only [runRules_all, hfix, Prod.mk.injEq]
    constructor
    · rintro ⟨hfindings, rfl⟩
      generalize hread : (runRules scope _ Rule.readers).1 = result at hfindings
      cases result with
      | error failure => cases hfindings
      | ok more =>
        cases hfindings
        exact ⟨scope, more, rfl, rfl, hread, rfl⟩
    · rintro ⟨seen, more, hscope, rfl, hread, rfl⟩
      cases hscope
      rw [hread]
      exact ⟨rfl, rfl⟩

/-- A pass that fixes problems changes only the files that it says it has fixed. -/
theorem lint_changedBy {workspace left : Workspace} {base : RepoPath} {configFile : String}
    {findings : List Finding}
    (h : lint workspace base configFile true = (.ok findings, left)) :
    ChangedBy findings workspace left := by
  obtain ⟨scope, more, -, rfl, -, rfl⟩ := lint_eq_ok_iff.mp h
  refine (checkNames_changedBy workspace scope.namedFiles).mono fun finding hfinding => ?_
  rw [mem_sortBy]
  exact List.mem_append_left _ hfinding

end Conventions
