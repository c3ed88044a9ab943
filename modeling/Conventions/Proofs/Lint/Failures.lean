import Conventions.Proofs.Check.Completion
import Conventions.Proofs.Lint.Rules

/-!
# What a failed pass leaves behind

A pass fails in one of two ways. What the rules see cannot be loaded, and then nothing has been
written. Or the base directory has the rule on names of workflow files on, under a setting that
this rule refuses: settings of modules are bound while they are loaded, so that no check of
modules fails, but the setting of the base directory is looked at when its rule runs, behind the
rules that write.
-/

namespace Conventions

variable {workspace left : Workspace} {failure : Failure}

/-- A rule is on if it has a setting that is. -/
theorem Config.ruleEnabled_iff {config : Config} {name : String} :
    config.ruleEnabled name = true ↔
      ∃ setting, config.rule? name = some setting ∧ setting.isEnabled = true := by
  unfold Config.ruleEnabled
  cases config.rule? name <;> simp

/-- The base directory has the rule on names of workflow files on, under a setting that the rule
refuses. -/
def Scope.RefusesWorkflows (scope : Scope) (failure : Failure) : Prop :=
  ∃ setting, scope.config.rule? Rule.workflowNames.name = some setting ∧
    setting.isEnabled = true ∧ Rule.workflowNames.options setting = .error failure

/-- A check of all workflow files fails if the setting is refused. -/
theorem Workflows.check_eq_error_iff {scope : Scope} :
    Workflows.check scope workspace = .error failure ↔
      ∃ setting, scope.config.rule? Rule.workflowNames.name = some setting ∧
        Rule.workflowNames.options setting = .error failure := by
  unfold Workflows.check
  cases hsetting : scope.config.rule? Rule.workflowNames.name with
  | none => simp
  | some setting =>
    cases hoptions : Rule.workflowNames.options setting with
    | error reason => simp [hoptions, bind, Except.bind]
    | ok options => cases options <;> simp [hoptions, bind, Except.bind, pure, Except.pure]

/-- On bound modules, a rule fails if what it says about the repository as a whole does. -/
theorem Rule.run_fst_eq_error_iff_base {rule : Rule} {scope : Scope}
    (hbound : ∀ module ∈ scope.modules, module.Bound) :
    (rule.run scope workspace).1 = .error failure ↔
      (if scope.config.ruleEnabled rule.name then rule.checkBase scope workspace else .ok []) =
        .error failure := by
  cases hbase : if scope.config.ruleEnabled rule.name then rule.checkBase scope workspace
      else .ok [] with
  | error reason => simp only [Rule.run, hbase]
  | ok found =>
    have henabled : ∀ module ∈ scope.modules.filter (·.ruleEnabled rule), module.Bound :=
      fun module hmodule => hbound module (List.mem_of_mem_filter hmodule)
    obtain ⟨more, hmore⟩ := rule.exists_checkModules scope workspace henabled
    rw [Rule.run_of_base hbase]
    simp [hmore, Except.map]

/-- On bound modules, only the rule on names of workflow files can fail, and it does if its
setting is refused. -/
theorem Rule.run_fst_eq_error_iff {rule : Rule} {scope : Scope}
    (hbound : ∀ module ∈ scope.modules, module.Bound) :
    (rule.run scope workspace).1 = .error failure ↔
      rule = .workflowNames ∧ scope.RefusesWorkflows failure := by
  rw [Rule.run_fst_eq_error_iff_base hbound]
  cases rule with
  | workflowNames =>
    change (if _ then Workflows.check scope workspace else _) = _ ↔ _
    by_cases hon : scope.config.ruleEnabled Rule.workflowNames.name = true
    · obtain ⟨setting, hsetting, henabled⟩ := Config.ruleEnabled_iff.mp hon
      simp [hon, Workflows.check_eq_error_iff, Scope.RefusesWorkflows, hsetting, henabled]
    · have hrefuses : ¬ scope.RefusesWorkflows failure := fun ⟨setting, hsetting, henabled, _⟩ =>
        hon (Config.ruleEnabled_iff.mpr ⟨setting, hsetting, henabled⟩)
      simp [hon, hrefuses]
  | _ => simp [Rule.checkBase]

/-- Rules fail with the first of them, or with the others behind it. -/
theorem runRules_cons_fst_eq_error_iff {rule : Rule} {rest : List Rule} {scope : Scope} :
    (runRules scope workspace (rule :: rest)).1 = .error failure ↔
      (rule.run scope workspace).1 = .error failure ∨
        ∃ found, (rule.run scope workspace).1 = .ok found ∧
          (runRules scope (rule.run scope workspace).2 rest).1 = .error failure := by
  rw [runRules]
  rcases rule.run scope workspace with ⟨reason | found, after⟩
  · simp
  · rcases hrest : runRules scope after rest with ⟨reason | more, left⟩ <;> simp [hrest]

/-- On bound modules, rules fail if the one on names of workflow files is among them and its
setting is refused. -/
theorem runRules_fst_eq_error_iff {scope : Scope} {rules : List Rule}
    (hbound : ∀ module ∈ scope.modules, module.Bound) :
    (runRules scope workspace rules).1 = .error failure ↔
      .workflowNames ∈ rules ∧ scope.RefusesWorkflows failure := by
  induction rules generalizing workspace with
  | nil => simp [runRules]
  | cons rule rest ih =>
    rw [runRules_cons_fst_eq_error_iff, Rule.run_fst_eq_error_iff hbound, ih, List.mem_cons]
    constructor
    · rintro (⟨rfl, hrefuses⟩ | ⟨_, -, hmem, hrefuses⟩)
      · exact ⟨Or.inl rfl, hrefuses⟩
      · exact ⟨Or.inr hmem, hrefuses⟩
    · rintro ⟨rfl | hmem, hrefuses⟩
      · exact Or.inl ⟨rfl, hrefuses⟩
      · cases hrun : (rule.run scope workspace).1 with
        | error reason => exact Or.inl ⟨((Rule.run_fst_eq_error_iff hbound).mp hrun).1, hrefuses⟩
        | ok found => exact Or.inr ⟨found, rfl, hmem, hrefuses⟩

/-- Refusing a setting is a failure of the configuration. -/
theorem Scope.RefusesWorkflows.isConfigError {scope : Scope} (h : scope.RefusesWorkflows failure) :
    failure.isConfigError = true := by
  obtain ⟨setting, -, -, hoptions⟩ := h
  unfold Rule.options at hoptions
  split at hoptions
  · cases hoptions
  · cases hoptions
    rfl

section

variable {base : RepoPath} {configFile : String} {fix : Bool} {scope : Scope}

/-- The modules that the rules see are bound. -/
theorem Scope.bound_of_load (h : Scope.load workspace base configFile fix = .ok scope) :
    ∀ module ∈ scope.modules, module.Bound := by
  unfold Scope.load at h
  split at h
  · obtain ⟨resolution, -, hrest⟩ := bind_eq_ok_iff.mp h
    obtain ⟨modules, hmodules, hscope⟩ := bind_eq_ok_iff.mp hrest
    cases hscope
    exact RepoModule.bound_of_discover hmodules
  · cases h

/-- A pass fails at once if what the rules see cannot be loaded. -/
theorem lint_of_load_eq_error (h : Scope.load workspace base configFile fix = .error failure) :
    lint workspace base configFile fix = (.error failure, workspace) := by
  unfold lint
  rw [h]

/-- A pass leaves what the checks of names leave. -/
theorem lint_snd_of_load (h : Scope.load workspace base configFile fix = .ok scope) :
    (lint workspace base configFile fix).2 = (checkNames fix workspace scope.namedFiles).2 := by
  have hfix : scope.fix = fix := (Scope.load_withFix h fix).2
  simp only [lint, h, runRules_all, hfix]

/-- A pass leaves the workspace as it was, or as the checks of names leave it. -/
theorem lint_snd_cases (workspace : Workspace) (base : RepoPath) (configFile : String)
    (fix : Bool) : (lint workspace base configFile fix).2 = workspace ∨
      ∃ scope, Scope.load workspace base configFile fix = .ok scope ∧
        (lint workspace base configFile fix).2 =
          (checkNames fix workspace scope.namedFiles).2 := by
  cases hload : Scope.load workspace base configFile fix with
  | error failure => exact Or.inl (by rw [lint_of_load_eq_error hload])
  | ok scope => exact Or.inr ⟨scope, rfl, lint_snd_of_load hload⟩

/-- Once it is known what the rules see, a pass fails exactly if the setting for names of
workflow files is refused. -/
theorem lint_fst_eq_error_iff_of_load (h : Scope.load workspace base configFile fix = .ok scope) :
    (lint workspace base configFile fix).1 = .error failure ↔ scope.RefusesWorkflows failure := by
  have hrules : (runRules scope workspace Rule.all).1 = .error failure ↔
      scope.RefusesWorkflows failure := by
    rw [runRules_fst_eq_error_iff (Scope.bound_of_load h)]
    simp [Rule.all]
  rw [← hrules]
  simp only [lint, h]
  cases (runRules scope workspace Rule.all).1 <;> simp [Except.map]

/-- A pass fails with the workspace as it was if what the rules see cannot be loaded. It fails
otherwise exactly if the base directory has the rule on names of workflow files on under a
setting that is refused, which is a failure of the configuration. In this case all names have
been checked before, and what was fixed stays fixed. -/
theorem lint_eq_error_iff :
    lint workspace base configFile fix = (.error failure, left) ↔
      (Scope.load workspace base configFile fix = .error failure ∧ left = workspace) ∨
      ∃ scope, Scope.load workspace base configFile fix = .ok scope ∧
        scope.RefusesWorkflows failure ∧ failure.isConfigError = true ∧
        left = (checkNames fix workspace scope.namedFiles).2 := by
  rw [Prod.ext_iff]
  cases hload : Scope.load workspace base configFile fix with
  | error reason =>
    rw [lint_of_load_eq_error hload]
    constructor
    · rintro ⟨hreason, rfl⟩
      cases hreason
      exact Or.inl ⟨rfl, rfl⟩
    · rintro (⟨hreason, rfl⟩ | ⟨scope, hscope, -⟩)
      · cases hreason
        exact ⟨rfl, rfl⟩
      · cases hscope
  | ok scope =>
    rw [lint_fst_eq_error_iff_of_load hload, lint_snd_of_load hload]
    constructor
    · rintro ⟨hrefuses, hleft⟩
      exact Or.inr ⟨scope, rfl, hrefuses, hrefuses.isConfigError, hleft.symm⟩
    · rintro (⟨hfailure, -⟩ | ⟨seen, hseen, hrefuses, -, hleft⟩)
      · cases hfailure
      · cases hseen
        exact ⟨hrefuses, hleft.symm⟩

end

/-- A repository in which the base directory has a setting for workflow files that is refused,
while its module has this rule off. -/
def refusedAtBase : Workspace where
  root := .folder [
    ("a", .folder [
      ("config", .file (.text ("\x7b\"extends\": [], \"rules\": " ++
        "\x7b\"gh-workflow-module-prefix\": false\x7d\x7d"))),
      ("package.json", .file (.text "\x7b\x7d"))]),
    ("config", .file (.text ("\x7b\"extends\": [], \"module-markers\": [\"package.json\"], " ++
      "\"rules\": \x7b\"packagejson-same-name\": true, " ++
      "\"gh-workflow-module-prefix\": \x7b\"suffixes\": []\x7d\x7d\x7d")))]
  current := []

/-- A pass that fails for its configuration can have written files before. -/
theorem not_unchanged_refusedAtBase :
    ¬ ∀ workspace left base configFile failure,
      lint workspace base configFile true = (.error failure, left) →
        failure.isConfigError = true → left = workspace := by
  intro h
  have hrun : (lint refusedAtBase ⟨"."⟩ "config" true).1 =
        .error (.invalidRuleConfig Rule.workflowNames.name "at least one suffix is required") ∧
      (lint refusedAtBase ⟨"."⟩ "config" true).2.read ⟨"a/package.json"⟩ ≠
        refusedAtBase.read ⟨"a/package.json"⟩ := by decide +kernel
  generalize hlint : lint refusedAtBase ⟨"."⟩ "config" true = outcome at hrun
  obtain ⟨result, left⟩ := outcome
  obtain ⟨rfl, hread⟩ := hrun
  rw [h _ _ _ _ _ hlint rfl] at hread
  exact hread rfl

end Conventions
