import Conventions.Lint.Basic
import Conventions.Proofs.Check.Workflows
import Conventions.Proofs.Modules.Bindings
import Conventions.Proofs.Rule.Options

/-!
# Checks of bound modules have a result

Three rules compile something when they run: two the globs among their options, one the
expressions for the names of workflow files. The globs have been compiled when the options were
accepted, and the expressions can be read whatever they are made from. No check looks at
anything else that could keep it from a result, and what is wrong with a file is a finding.
-/

namespace Conventions

/-- All items are checked if each of them is. -/
theorem exists_checkAll {α : Type} {check : α → Except Failure (List Finding)} {items : List α}
    (h : ∀ item ∈ items, ∃ findings, check item = .ok findings) :
    ∃ findings, checkAll check items = .ok findings := by
  obtain ⟨found, hfound⟩ := exists_mapM_iff.mpr h
  exact ⟨found.flatten, bind_eq_ok_iff.mpr ⟨found, hfound, rfl⟩⟩

/-- The folders of a module that is bound can be checked. -/
theorem Folders.exists_check (workspace : Workspace) {module : RepoModule} (h : module.Bound) :
    ∃ findings, check workspace module = .ok findings := by
  unfold check
  split
  · next required strict hoptions =>
    obtain ⟨setting, hsetting⟩ := h.exists_setting hoptions
    obtain ⟨patterns, hpatterns⟩ := RuleOptions.exists_compileGlobs_of_folders hsetting
    split
    · exact ⟨[], rfl⟩
    · exact ⟨_, bind_eq_ok_iff.mpr ⟨patterns, mapError_eq_ok_iff.mpr hpatterns, rfl⟩⟩
  · exact ⟨[], rfl⟩

/-- The parent folder of a module that is bound can be checked. -/
theorem ParentFolder.exists_check (base : RepoPath) {module : RepoModule} (h : module.Bound) :
    ∃ findings, check base module = .ok findings := by
  unfold check
  split
  · next allowed hoptions =>
    obtain ⟨setting, hsetting⟩ := h.exists_setting hoptions
    obtain ⟨patterns, hpatterns⟩ := RuleOptions.exists_compileGlobs_of_parents hsetting
    split
    · exact ⟨[], rfl⟩
    · exact ⟨_, bind_eq_ok_iff.mpr ⟨patterns, mapError_eq_ok_iff.mpr hpatterns, rfl⟩⟩
  · exact ⟨[], rfl⟩

/-- It can be checked whether a module has its workflow files, whatever its name and the
suffixes are. -/
theorem Workflows.exists_checkModule (folder : RepoPath) (files : List String)
    (module : RepoModule) : ∃ findings, checkModule folder files module = .ok findings := by
  unfold checkModule
  split
  · next suffixes _ =>
    refine exists_checkAll fun suffix _ => ?_
    exact ⟨_, bind_eq_ok_iff.mpr ⟨_, mapError_read_filePattern module.name suffix, rfl⟩⟩
  · exact ⟨[], rfl⟩

/-- Every rule has a result on modules that are bound, whatever the workspace holds. -/
theorem Rule.exists_checkModules (rule : Rule) (scope : Scope) (workspace : Workspace)
    {modules : List RepoModule} (h : ∀ module ∈ modules, module.Bound) :
    ∃ findings, (rule.checkModules scope workspace modules).1 = .ok findings := by
  cases rule with
  | folderStructure =>
    exact exists_checkAll fun module hmodule => Folders.exists_check workspace (h module hmodule)
  | parentFolder =>
    exact exists_checkAll fun module hmodule =>
      ParentFolder.exists_check scope.base (h module hmodule)
  | workflowNames =>
    exact exists_checkAll fun module _ => Workflows.exists_checkModule _ _ module
  | _ => exact ⟨_, rfl⟩

end Conventions
