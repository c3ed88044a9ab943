import Conventions.Modules.Discovery
import Conventions.Proofs.Except
import Conventions.Proofs.Sorting

/-!
# Settings of modules are bound when they are loaded

A module that is loaded has been through the settings of all rules that are on in it. So the
options with which a rule finds it are options that the rule has accepted.
-/

namespace Conventions

/-- The options of every rule that is on in a module are those that its setting stands for. -/
def RepoModule.Bound (module : RepoModule) : Prop :=
  ∀ binding ∈ module.bindings, binding.rule.options binding.setting = .ok binding.options

/-- Rules are bound to options that they accept. -/
theorem options_of_mem_bindRules {source : RepoPath} {settings : List (String × RuleSetting)}
    {bindings : List Binding} (h : bindRules source settings = .ok bindings) :
    ∀ binding ∈ bindings, binding.rule.options binding.setting = .ok binding.options := by
  fun_induction bindRules source settings generalizing bindings with
  | case1 =>
    cases h
    simp
  | case2 name setting rest hon hname => cases h
  | case3 name setting rest hon rule hname ih =>
    obtain ⟨options, hoptions, hmore⟩ := bind_eq_ok_iff.mp h
    obtain ⟨more, hrest, hbindings⟩ := bind_eq_ok_iff.mp hmore
    cases hbindings
    exact List.forall_mem_cons.mpr ⟨hoptions, ih hrest⟩
  | case4 name setting rest hoff ih => exact ih h

namespace RepoModule

variable {workspace : Workspace} {base : RepoPath} {configFile : String}

/-- A module is bound when it is loaded. -/
theorem bound_of_load {path : RepoPath} {module : RepoModule}
    (h : load workspace base configFile path = .ok module) : module.Bound := by
  obtain ⟨resolution, -, hrest⟩ := bind_eq_ok_iff.mp h
  obtain ⟨bindings, hbindings, hmodule⟩ := bind_eq_ok_iff.mp hrest
  cases hmodule
  exact options_of_mem_bindRules hbindings

/-- The modules that are discovered are bound. -/
theorem bound_of_discover {config : Config} {modules : List RepoModule}
    (h : discover workspace base config configFile = .ok modules) :
    ∀ module ∈ modules, module.Bound := by
  obtain ⟨files, -, hrest⟩ := bind_eq_ok_iff.mp h
  obtain ⟨candidates, hcandidates, hmodules⟩ := bind_eq_ok_iff.mp hrest
  cases hmodules
  intro module hmodule
  rw [arrange, mem_sortBy] at hmodule
  obtain ⟨folder, -, hload⟩ :=
    exists_item_of_mapM hcandidates (List.mem_of_mem_filter hmodule)
  exact bound_of_load hload

/-- What a rule finds in a module that is bound, it has accepted. -/
theorem Bound.exists_setting {module : RepoModule} (h : module.Bound) {rule : Rule}
    {options : RuleOptions} (hoptions : module.options? rule = some options) :
    ∃ setting, rule.options setting = .ok options := by
  obtain ⟨binding, hfound, rfl⟩ := Option.map_eq_some_iff.mp hoptions
  have hrule : binding.rule = rule := by simpa using List.find?_some hfound
  exact ⟨binding.setting, hrule ▸ h binding (List.mem_of_find?_eq_some hfound)⟩

end RepoModule

end Conventions
