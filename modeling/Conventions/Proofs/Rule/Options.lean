import Conventions.Proofs.Except
import Conventions.Rule.Options

/-!
# Accepted globs can be used

Globs are kept as texts after it has been seen that they compile, and are compiled again when
their rule runs. Each of the two rules with globs tries them in the form that counts when it
runs, so the second time cannot fail.
-/

namespace Conventions

/-- Options that a rule accepts are those that its setting stands for. -/
theorem Rule.options_eq_ok_iff {rule : Rule} {setting : RuleSetting} {options : RuleOptions} :
    rule.options setting = .ok options ↔ RuleOptions.ofSetting setting rule = .ok options := by
  unfold Rule.options
  cases RuleOptions.ofSetting setting rule <;> simp

namespace RuleOptions

variable {setting : RuleSetting} {globs : List GlobText}

/-- Globs that have been checked compile. -/
theorem exists_compileGlobs_of_checkGlobs {meaning : String → String} {texts : List String}
    (h : checkGlobs meaning texts = .ok globs) :
    ∃ patterns, compileGlobs meaning globs = .ok patterns := by
  simp only [checkGlobs] at h
  split at h
  · next patterns hpatterns =>
    cases h
    exact ⟨patterns, hpatterns⟩
  · cases h

/-- Globs for the folders of a module compile as they are written. -/
theorem exists_compileGlobs_of_folders {strict : Bool}
    (h : Rule.folderStructure.options setting = .ok (folders globs strict)) :
    ∃ patterns, compileGlobs id globs = .ok patterns := by
  have haccepted : ofFolderStructure setting = .ok (folders globs strict) :=
    Rule.options_eq_ok_iff.mp h
  obtain ⟨asked, -, hasked⟩ := bind_eq_ok_iff.mp haccepted
  obtain ⟨checked, hchecked, hresult⟩ := bind_eq_ok_iff.mp hasked
  cases hresult
  exact exists_compileGlobs_of_checkGlobs hchecked

/-- Globs for the parent folders of a module compile as globs for any depth. -/
theorem exists_compileGlobs_of_parents
    (h : Rule.parentFolder.options setting = .ok (parents globs)) :
    ∃ patterns, compileGlobs Glob.atAnyDepth globs = .ok patterns := by
  have haccepted : ofParentFolder setting = .ok (parents globs) := Rule.options_eq_ok_iff.mp h
  obtain ⟨asked, -, hasked⟩ := bind_eq_ok_iff.mp haccepted
  obtain ⟨checked, hchecked, hresult⟩ := bind_eq_ok_iff.mp hasked
  cases hresult
  exact exists_compileGlobs_of_checkGlobs hchecked

end RuleOptions

end Conventions
