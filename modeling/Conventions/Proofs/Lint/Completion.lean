import Conventions.Proofs.Lint.Failures

/-!
# What files hold does not end a pass

Once the configuration of the base directory and the modules are loaded, a pass comes to its
end, whatever the files that are checked hold: a file that is missing, no text or malformed is a
finding. The setting of the base directory for names of workflow files is the only one that is
not bound by then, so it has to be one that its rule accepts.
-/

namespace Conventions

variable {workspace : Workspace} {base : RepoPath} {configFile : String}

/-- What the rules see is there once the configuration of the base directory and the modules
are. -/
theorem Scope.load_eq_ok (fix : Bool) {resolution : Resolution} {modules : List RepoModule}
    (hbase : workspace.isFolder base = true)
    (hresolution : Resolution.resolve workspace base base configFile = .ok resolution)
    (hmodules :
      RepoModule.discover workspace base resolution.config configFile = .ok modules) :
    Scope.load workspace base configFile fix =
      .ok { base, config := resolution.config, modules, fix } := by
  unfold Scope.load
  rw [if_pos hbase, hresolution]
  change RepoModule.discover workspace base resolution.config configFile >>= _ = _
  rw [hmodules]
  rfl

/-- The setting for names of workflow files is not refused if it is off or accepted. -/
theorem Scope.not_refusesWorkflows {scope : Scope} {failure : Failure}
    (h : scope.config.ruleEnabled Rule.workflowNames.name = false ∨
      ∃ setting options, scope.config.rule? Rule.workflowNames.name = some setting ∧
        Rule.workflowNames.options setting = .ok options) : ¬ scope.RefusesWorkflows failure := by
  rintro ⟨setting, hsetting, henabled, hrefused⟩
  rcases h with hoff | ⟨other, options, hother, haccepted⟩
  · have hon := Config.ruleEnabled_iff.mpr ⟨setting, hsetting, henabled⟩
    rw [hoff] at hon
    cases hon
  · obtain rfl : setting = other := Option.some.inj (hsetting.symm.trans hother)
    cases hrefused.symm.trans haccepted

/-- Where the configuration of the base directory and the modules can be loaded, and the rule on
names of workflow files is off in the base directory or accepts its setting, a pass has findings
in the end. The modules are bound, and on bound modules every rule has a result, in whatever
workspace and scope it runs. -/
theorem lint_completes {fix : Bool} {resolution : Resolution} {modules : List RepoModule}
    (hbase : workspace.isFolder base = true)
    (hresolution : Resolution.resolve workspace base base configFile = .ok resolution)
    (hmodules : RepoModule.discover workspace base resolution.config configFile = .ok modules)
    (hworkflows : resolution.config.ruleEnabled Rule.workflowNames.name = false ∨
      ∃ setting options, resolution.config.rule? Rule.workflowNames.name = some setting ∧
        Rule.workflowNames.options setting = .ok options) :
    (∃ findings left, lint workspace base configFile fix = (.ok findings, left)) ∧
      (∀ module ∈ modules, module.Bound) ∧
      ∀ (rule : Rule) (scope : Scope) (contents : Workspace) (bound : List RepoModule),
        (∀ module ∈ bound, module.Bound) →
          ∃ findings left, rule.checkModules scope contents bound = (.ok findings, left) := by
  refine ⟨?_, RepoModule.bound_of_discover hmodules, ?_⟩
  · have hload := Scope.load_eq_ok fix hbase hresolution hmodules
    rcases hlint : lint workspace base configFile fix with ⟨failure | findings, left⟩
    · have hfailure : (lint workspace base configFile fix).1 = .error failure := by rw [hlint]
      have hrefuses := (lint_fst_eq_error_iff_of_load hload).mp hfailure
      exact absurd hrefuses (Scope.not_refusesWorkflows hworkflows)
    · exact ⟨findings, left, rfl⟩
  · intro rule scope contents bound hbound
    obtain ⟨findings, hfindings⟩ := rule.exists_checkModules scope contents hbound
    exact ⟨findings, _, Prod.ext hfindings rfl⟩

/-- A repository with one module, whose manifest is no text, whose service description is
malformed, and which has neither folders nor workflow files. -/
def unreadableModule : Workspace where
  root := .folder [
    ("config", .file (.text ("\x7b\"extends\": [], \"module-markers\": [\"package.json\"], " ++
      "\"rules\": \x7b\"serverless-same-name\": true, \"module-folder-structure\": [\"*\"], " ++
      "\"gh-workflow-module-prefix\": \x7b\"required\": true\x7d\x7d\x7d"))),
    ("[a", .folder [
      ("package.json", .file (.undecodable ⟨#[0xff]⟩)),
      ("serverless.yml", .file (.text "[a: "))])]
  current := []

/-- A pass over this module has findings in the end. -/
theorem lint_completes_unreadableModule :
    ∃ findings left, lint unreadableModule ⟨"."⟩ "config" true = (.ok findings, left) := by
  have hrun : (match Resolution.resolve unreadableModule ⟨"."⟩ ⟨"."⟩ "config" with
    | .ok resolution =>
      ((resolution.config.rule? Rule.workflowNames.name).any fun setting =>
        (Rule.workflowNames.options setting).toOption.any fun _ => true) &&
      (RepoModule.discover unreadableModule ⟨"."⟩ resolution.config "config").toOption.any
        fun modules => modules.length == 1
    | .error _ => false) = true := by decide +kernel
  split at hrun
  · next resolution hresolution =>
    obtain ⟨hworkflows, hdiscover⟩ := Bool.and_eq_true_iff.mp hrun
    obtain ⟨setting, hsetting, haccepted⟩ := (Option.any_eq_true _ _).mp hworkflows
    obtain ⟨options, hoptions, -⟩ := exists_ok_of_any haccepted
    obtain ⟨modules, hmodules, -⟩ := exists_ok_of_any hdiscover
    exact (lint_completes (by decide +kernel) hresolution hmodules
      (Or.inr ⟨setting, options, hsetting, hoptions⟩)).1
  · cases hrun

end Conventions
