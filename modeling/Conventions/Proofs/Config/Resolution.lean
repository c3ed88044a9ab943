import Conventions.Proofs.Config.Merge
import Conventions.Proofs.Workspace.Levels

/-!
# What a resolution is made of

Every level from the root down to a target contributes configurations: the presets that it
extends and then its own settings. The resolution is the first configuration with all of
these laid over it, one level after the other.
-/

namespace Conventions

/-- All rules of a configuration exist. -/
def Config.Registered (config : Config) : Prop :=
  ∀ name ∈ Entries.keys config.rules, (Rule.ofName? name).isSome = true

/-- A configuration that says nothing has no rules that could not exist. -/
theorem Config.registered_empty : ({} : Config).Registered := by
  intro name hname
  cases hname

/-- Rules that exist, laid over rules that exist, exist. -/
theorem Config.Registered.merge {parent child : Config} (h : parent.Registered)
    (hchild : child.Registered) : (parent.merge child).Registered := by
  intro name hname
  rcases Config.mem_keys_merge hname with hmem | hmem
  · exact hchild name hmem
  · exact h name hmem

/-- Rules that exist, laid over rules that exist one after the other, exist. -/
theorem Config.Registered.foldl_merge {config : Config} (h : config.Registered)
    {children : List Config} (hchildren : ∀ child ∈ children, child.Registered) :
    (children.foldl Config.merge config).Registered := by
  induction children generalizing config with
  | nil => exact h
  | cons child rest ih =>
    obtain ⟨hchild, hrest⟩ := List.forall_mem_cons.mp hchildren
    exact ih (h.merge hchild) hrest

/-- A configuration that passes its check has only rules that exist. -/
theorem Config.registered_of_validate {config : Config} {file : RepoPath}
    (h : config.validate file = .ok ()) : config.Registered := by
  unfold Config.validate at h
  split at h
  · cases h
  · next rules hrules =>
    split at h
    · cases h
    · next hnone =>
      intro name hname
      have hkeys : name ∈ Entries.keys rules := by simpa [Config.rules, hrules] using hname
      have hknown := List.find?_eq_none.mp hnone name hkeys
      simpa [Option.isSome_iff_ne_none] using hknown

namespace Resolution

/-- The configurations that a level with given settings contributes. -/
def saidBy (level : Level) (file : RepoPath) (own : Config) : Except Failure (List Config) := do
  let presets ← (extended level own).mapM fun name => Preset.resolve name file.text
  return presets ++ [own]

/-- The configurations that a level contributes. Without a config file it contributes none,
unless it is the root. -/
def contributions (workspace : Workspace) (fileName : String) (level : Level) :
    Except Failure (List Config) :=
  if workspace.isFile (level.path.join fileName) then do
    saidBy level (level.path.join fileName)
      (← Config.load workspace (level.path.join fileName))
  else if level.isRoot then saidBy level (level.path.join fileName) {}
  else .ok []

/-- A resolution goes on to another one by laying configurations over it, which come from
files. If there are any, the rules have been checked. -/
structure LaidOver (before after : Resolution) (added : List Config) (files : List RepoPath) :
    Prop where
  config_eq : after.config = added.foldl Config.merge before.config
  files_eq : after.files = before.files ++ files
  registered : added ≠ [] → after.config.Registered

/-- Nothing is laid over a resolution that stays as it is. -/
theorem LaidOver.refl (resolution : Resolution) : LaidOver resolution resolution [] [] where
  config_eq := rfl
  files_eq := by simp
  registered h := absurd rfl h

/-- What is laid over a resolution in two turns is laid over it one after the other. -/
theorem LaidOver.trans {first second third : Resolution} {added more : List Config}
    {files others : List RepoPath} (h : LaidOver first second added files)
    (h' : LaidOver second third more others) :
    LaidOver first third (added ++ more) (files ++ others) where
  config_eq := by rw [List.foldl_append, ← h.config_eq, h'.config_eq]
  files_eq := by rw [h'.files_eq, h.files_eq, List.append_assoc]
  registered hne := by
    by_cases hmore : more = []
    · subst hmore
      have hsame : third.config = second.config := h'.config_eq
      rw [hsame]
      exact h.registered (by simpa using hne)
    · exact h'.registered hmore

/-- Presets are laid over a resolution in the order in which they are named. -/
theorem foldlM_addPreset {file : RepoPath} {names : List String} {before after : Resolution}
    (h : names.foldlM (addPreset file) before = .ok after) :
    ∃ presets, names.mapM (fun name => Preset.resolve name file.text) = .ok presets ∧
      after.config = presets.foldl Config.merge before.config ∧ after.files = before.files := by
  induction names generalizing before with
  | nil =>
    cases h
    exact ⟨[], rfl, rfl, rfl⟩
  | cons name rest ih =>
    obtain ⟨next, hnext, h⟩ := bind_eq_ok_iff.mp h
    obtain ⟨preset, hpreset, hnext⟩ := bind_eq_ok_iff.mp hnext
    cases hnext
    obtain ⟨presets, hpresets, hconfig, hfiles⟩ := ih h
    refine ⟨preset :: presets, ?_, hconfig, hfiles⟩
    rw [mapM_eq_ok_iff] at hpresets ⊢
    exact .cons hpreset hpresets

/-- A level lays its presets and then its own settings over a resolution. -/
theorem addLevel_laidOver {level : Level} {file : RepoPath} {own : Config}
    {before after : Resolution} (h : addLevel level file own before = .ok after) :
    ∃ added, saidBy level file own = .ok added ∧ LaidOver before after added [] := by
  unfold addLevel at h
  split at h
  · cases h
  · obtain ⟨extended, hextended, h⟩ := bind_eq_ok_iff.mp h
    obtain ⟨_, hvalid, h⟩ := bind_eq_ok_iff.mp h
    cases h
    obtain ⟨presets, hpresets, hconfig, hfiles⟩ := foldlM_addPreset hextended
    refine ⟨presets ++ [own], bind_eq_ok_iff.mpr ⟨presets, hpresets, rfl⟩, ?_, ?_, ?_⟩
    · rw [List.foldl_append, ← hconfig]
      rfl
    · simpa using hfiles
    · exact fun _ => Config.registered_of_validate hvalid

/-- One level lays what it contributes over a resolution. -/
theorem step_laidOver {workspace : Workspace} {fileName : String} {level : Level}
    {before after : Resolution} (h : step workspace fileName before level = .ok after) :
    ∃ added, contributions workspace fileName level = .ok added ∧
      LaidOver before after added
        ([level.path.join fileName].filter fun file => workspace.isFile file) := by
  unfold step at h
  unfold contributions
  by_cases hfile : workspace.isFile (level.path.join fileName) = true
  · rw [if_pos hfile] at h ⊢
    obtain ⟨own, hown, h⟩ := bind_eq_ok_iff.mp h
    obtain ⟨added, hadded, hconfig, hfiles, hregistered⟩ := addLevel_laidOver h
    refine ⟨added, bind_eq_ok_iff.mpr ⟨own, hown, hadded⟩, hconfig, ?_, hregistered⟩
    simpa [hfile] using hfiles
  · rw [if_neg hfile] at h ⊢
    simp only [List.filter_cons, hfile, List.filter_nil]
    by_cases hroot : level.isRoot = true
    · rw [if_pos hroot] at h ⊢
      exact addLevel_laidOver h
    · rw [if_neg hroot] at h ⊢
      cases h
      exact ⟨[], rfl, LaidOver.refl _⟩

/-- Levels one after the other lay over a resolution what each of them contributes. -/
theorem foldlM_step_laidOver {workspace : Workspace} {fileName : String} {visited : List Level}
    {before after : Resolution} (h : visited.foldlM (step workspace fileName) before = .ok after) :
    ∃ groups, visited.mapM (contributions workspace fileName) = .ok groups ∧
      LaidOver before after groups.flatten
        ((visited.map fun level => level.path.join fileName).filter
          fun file => workspace.isFile file) := by
  induction visited generalizing before with
  | nil =>
    cases h
    exact ⟨[], rfl, LaidOver.refl _⟩
  | cons level rest ih =>
    obtain ⟨next, hnext, h⟩ := bind_eq_ok_iff.mp h
    obtain ⟨added, hadded, hfirst⟩ := step_laidOver hnext
    obtain ⟨groups, hgroups, hrest⟩ := ih h
    refine ⟨added :: groups, ?_, ?_⟩
    · rw [mapM_eq_ok_iff] at hgroups ⊢
      exact .cons hadded hgroups
    · have hboth := hfirst.trans hrest
      rwa [← List.filter_append] at hboth

/-- What a level says is never nothing. -/
theorem saidBy_ne_nil {level : Level} {file : RepoPath} {own : Config} {added : List Config}
    (h : saidBy level file own = .ok added) : added ≠ [] := by
  obtain ⟨presets, -, h⟩ := bind_eq_ok_iff.mp h
  cases h
  simp

/-- The root always contributes something. -/
theorem contributions_root_ne_nil {workspace : Workspace} {fileName : String} {level : Level}
    {added : List Config} (hroot : level.isRoot = true)
    (h : contributions workspace fileName level = .ok added) : added ≠ [] := by
  unfold contributions at h
  split at h
  · obtain ⟨own, -, h⟩ := bind_eq_ok_iff.mp h
    exact saidBy_ne_nil h
  · exact saidBy_ne_nil h

/-- The rules of all that a level says are in order if its own are. -/
theorem ordered_of_saidBy {level : Level} {file : RepoPath} {own : Config} {added : List Config}
    (hown : own.Ordered) (h : saidBy level file own = .ok added) :
    ∀ config ∈ added, config.Ordered := by
  obtain ⟨presets, hpresets, h⟩ := bind_eq_ok_iff.mp h
  cases h
  intro config hconfig
  rcases List.mem_append.mp hconfig with hconfig | hconfig
  · obtain ⟨name, -, hpreset⟩ := exists_item_of_mapM hpresets hconfig
    exact Preset.ordered_of_resolveFrom hpreset
  · rw [List.mem_singleton.mp hconfig]
    exact hown

/-- The rules of all contributions are in order. -/
theorem ordered_of_contributions {workspace : Workspace} {fileName : String} {level : Level}
    {added : List Config} (h : contributions workspace fileName level = .ok added) :
    ∀ config ∈ added, config.Ordered := by
  unfold contributions at h
  split at h
  · obtain ⟨own, hown, h⟩ := bind_eq_ok_iff.mp h
    exact ordered_of_saidBy (Config.ordered_of_load hown) h
  · split at h
    · exact ordered_of_saidBy Config.ordered_empty h
    · cases h
      simp

/-- The contributions of several levels have their rules in order. -/
theorem ordered_of_mapM_contributions {workspace : Workspace} {fileName : String}
    {visited : List Level} {groups : List (List Config)}
    (h : visited.mapM (contributions workspace fileName) = .ok groups) :
    ∀ config ∈ groups.flatten, config.Ordered := by
  intro config hconfig
  obtain ⟨group, hgroup, hmem⟩ := List.mem_flatten.mp hconfig
  obtain ⟨level, -, hlevel⟩ := exists_item_of_mapM h hgroup
  exact ordered_of_contributions hlevel config hmem

/-- Where the way starts at the root, there is at least one contribution. -/
theorem flatten_ne_nil_of_root {workspace : Workspace} {fileName : String} {root : RepoPath}
    {below : List Level} {groups : List (List Config)}
    (h : (⟨root, true⟩ :: below).mapM (contributions workspace fileName) = .ok groups) :
    groups.flatten ≠ [] := by
  cases mapM_eq_ok_iff.mp h with
  | cons hfirst _ =>
    have hne := contributions_root_ne_nil rfl hfirst
    simp [hne]

/-- The configuration of a target is made of what the levels from the root down to it
contribute: each rule has the last of its settings, all markers are kept in order, the
switch for the ignore file is the last one that is set, no presets are left, all rules
exist, and the files that were read are the config files that are there, root first. -/
theorem resolve_eq_contributions {workspace : Workspace} {target root : RepoPath}
    {fileName : String} {result : Resolution}
    (h : resolve workspace target root fileName = .ok result) :
    ∃ visited groups, levels root target = .ok visited ∧ visited.head? = some ⟨root, true⟩ ∧
      visited.mapM (contributions workspace fileName) = .ok groups ∧
      (∀ name, result.config.rule? name =
        groups.flatten.reverse.findSome? fun said => said.rule? name) ∧
      result.config.markers? = some (groups.flatten.flatMap Config.markers) ∧
      result.config.useGitignore? =
        some ((groups.flatten.reverse.findSome? Config.useGitignore?).getD true) ∧
      result.config.extends? = none ∧
      result.config.Registered ∧
      result.files = (visited.map fun level => level.path.join fileName).filter
        fun file => workspace.isFile file := by
  obtain ⟨visited, hvisited, h⟩ := bind_eq_ok_iff.mp h
  obtain ⟨groups, hgroups, hlaid⟩ := foldlM_step_laidOver h
  obtain ⟨below, rfl⟩ := levels_eq_root_cons hvisited
  have hne := flatten_ne_nil_of_root hgroups
  have hordered := ordered_of_mapM_contributions hgroups
  obtain ⟨hextends, hmarkers⟩ := Config.foldl_merge_fields hne start.config
  refine ⟨_, groups, hvisited, rfl, hgroups, ?_, ?_, ?_, ?_, hlaid.registered hne, ?_⟩
  · intro name
    rw [hlaid.config_eq, Config.rule?_foldl_merge hordered]
    exact Option.or_none
  · rw [hlaid.config_eq, hmarkers, Config.markers_foldl_merge]
    rfl
  · rw [hlaid.config_eq, Config.useGitignore?_foldl_merge]
    cases groups.flatten.reverse.findSome? Config.useGitignore? <;> rfl
  · rw [hlaid.config_eq, hextends]
  · exact hlaid.files_eq

/-- A repository whose base directory switches two rules on, with a directory in it that
switches one of them off and extends a preset, and one more directory in that. -/
def layeredConfigs : Workspace where
  root := .folder [
    ("a", .folder [
      ("b", .folder []),
      ("config", .file (.text ("\x7b\"extends\": [\"monolint:serverless\"], " ++
        "\"rules\": \x7b\"module-unique-name\": false\x7d\x7d")))]),
    ("config", .file (.text ("\x7b\"extends\": [], \"module-markers\": [\"p\"], \"rules\": " ++
      "\x7b\"module-unique-name\": true, \"packagejson-same-name\": true\x7d\x7d")))]
  current := []

/-- Below a directory that switches a rule off the rule is off, one that it does not mention
is on, and so is the one of the preset that it extends. -/
theorem resolve_layeredConfigs : ∃ (result : Resolution) (groups : List (List Config)),
    resolve layeredConfigs ⟨"./a/b"⟩ ⟨"."⟩ "config" = .ok result ∧
      result.config.rule? "module-unique-name" =
        groups.flatten.reverse.findSome? (fun said => said.rule? "module-unique-name") ∧
      groups.map List.length = [1, 2, 0] ∧
      result.config.ruleEnabled "module-unique-name" = false ∧
      result.config.ruleEnabled "packagejson-same-name" = true ∧
      result.config.ruleEnabled "serverless-same-name" = true := by
  have hrun : (match resolve layeredConfigs ⟨"./a/b"⟩ ⟨"."⟩ "config" with
    | .ok result => !result.config.ruleEnabled "module-unique-name" &&
        result.config.ruleEnabled "packagejson-same-name" &&
        result.config.ruleEnabled "serverless-same-name"
    | .error _ => false) = true := by decide +kernel
  have hsizes : (match (levels ⟨"."⟩ ⟨"./a/b"⟩).bind
      (·.mapM (contributions layeredConfigs "config")) with
    | .ok groups => groups.map List.length == [1, 2, 0]
    | .error _ => false) = true := by decide +kernel
  split at hrun
  · next result hresult =>
    obtain ⟨visited, groups, hvisited, -, hgroups, hrule, -⟩ := resolve_eq_contributions hresult
    simp only [hvisited, Except.bind, hgroups, beq_iff_eq] at hsizes
    simp only [Bool.and_eq_true, Bool.not_eq_true'] at hrun
    exact ⟨result, groups, hresult, hrule _, hsizes, hrun.1.1, hrun.1.2, hrun.2⟩
  · cases hrun

end Resolution

end Conventions
