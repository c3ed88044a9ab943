import Conventions.Proofs.Config.Continuation
import Conventions.Proofs.Config.Presets

/-!
# Why a directory cannot be resolved

The resolution of a directory in the base directory fails for one of the config files on the way to
it: the file cannot be read, or what it says cannot be meant on its level. Everything else that a
resolution checks holds by itself. A level is checked after the ones above it, so that a rule that
does not exist is one that the file of the level sets.
-/

namespace Conventions

/-- What settings on a level cannot say, with the failure that reports it: they set markers below
the root, extend a preset that is not declared, or set a rule that does not exist. -/
inductive Config.Misused (level : Level) (file : RepoPath) (own : Config) : Failure → Prop
  | markers : own.markers?.isSome = true → level.isRoot = false →
    Misused level file own (.markersBelowRoot file)
  | preset {name : String} : name ∈ own.extends?.getD [] → Preset.declared? name = none →
    Misused level file own (.unknownPreset name file.text)
  | rule {name : String} : name ∈ Entries.keys own.rules → Rule.ofName? name = none →
    Misused level file own (.unknownRule name file)

/-- Settings that say nothing cannot be misused. -/
theorem Config.not_misused_empty {level : Level} {file : RepoPath} {failure : Failure} :
    ¬ Config.Misused level file {} failure := by
  intro h
  cases h with
  | markers hmarkers _ => cases hmarkers
  | preset hname _ => cases hname
  | rule hname _ => cases hname

/-- A check of a configuration that has rules fails for one of them that does not exist. -/
theorem Config.exists_rule_of_validate_eq_error {config : Config} {file : RepoPath}
    {failure : Failure} (hrules : config.rules?.isSome = true)
    (h : config.validate file = .error failure) :
    ∃ name ∈ Entries.keys config.rules, Rule.ofName? name = none ∧
      failure = .unknownRule name file := by
  obtain ⟨rules, hrules⟩ := Option.isSome_iff_exists.mp hrules
  have hsame : config.rules = rules := by rw [Config.rules, hrules, Option.getD_some]
  rw [hsame]
  unfold Config.validate at h
  rw [hrules] at h
  dsimp only at h
  split at h
  · next name hname =>
    cases h
    have hnone := List.find?_some hname
    exact ⟨name, List.mem_of_find?_eq_some hname, Option.isNone_iff_eq_none.mp hnone, rfl⟩
  · cases h

namespace Resolution

/-- The config file of a level is there and cannot be used: it cannot be read, its text is no
configuration, or its settings cannot be meant on the level. -/
inductive BadFile (workspace : Workspace) (fileName : String) (level : Level) : Failure → Prop
  | unreadable {error : AccessError} : workspace.isFile (level.path.join fileName) = true →
    workspace.read (level.path.join fileName) = .error error →
      BadFile workspace fileName level (.access error)
  | malformed {text : String} {fault : Json.Fault} :
    workspace.isFile (level.path.join fileName) = true →
    workspace.read (level.path.join fileName) = .ok text → Config.parse text = .error fault →
      BadFile workspace fileName level (.unreadableConfig (level.path.join fileName) fault.text)
  | misused {own : Config} {failure : Failure} :
    workspace.isFile (level.path.join fileName) = true →
    Config.load workspace (level.path.join fileName) = .ok own →
    own.Misused level (level.path.join fileName) failure →
      BadFile workspace fileName level failure

/-- Presets leave rules that exist. -/
theorem registered_of_addPreset {file : RepoPath} {before after : Resolution} {name : String}
    (hbefore : before.config.Registered) (h : addPreset file before name = .ok after) :
    after.config.Registered := by
  obtain ⟨preset, hpreset, hafter⟩ := bind_eq_ok_iff.mp h
  cases hafter
  exact hbefore.merge (Preset.registered_of_resolveFrom hpreset)

/-- A preset is laid under unless none of its name is declared. -/
theorem unknown_of_addPreset_eq_error {file : RepoPath} {resolution : Resolution} {name : String}
    {failure : Failure} (h : addPreset file resolution name = .error failure) :
    Preset.declared? name = none ∧ failure = .unknownPreset name file.text := by
  rcases bind_eq_error_iff.mp h with hpreset | ⟨preset, -, hnever⟩
  · exact Preset.resolve_eq_error_iff.mp hpreset
  · cases hnever

/-- A preset that a level extends is named by its settings, or declared. -/
theorem mem_extends_of_mem_extended {level : Level} {own : Config} {name : String}
    (h : name ∈ extended level own) (hunknown : Preset.declared? name = none) :
    name ∈ own.extends?.getD [] := by
  unfold extended at h
  cases hextends : own.extends? with
  | some names => simpa [hextends] using h
  | none =>
    rw [hextends, Option.getD_none] at h
    split at h
    · obtain rfl : name = Preset.recommended := by simpa using h
      cases hunknown
    · cases h

/-- What is said on a level can be laid over rules that exist, unless it is misused. -/
theorem misused_of_addLevel_eq_error {level : Level} {file : RepoPath} {own : Config}
    {resolution : Resolution} {failure : Failure} (hresolution : resolution.config.Registered)
    (h : addLevel level file own resolution = .error failure) :
    own.Misused level file failure := by
  unfold addLevel at h
  split at h
  · next hset =>
    cases h
    obtain ⟨hmarkers, hbelow⟩ := Bool.and_eq_true_iff.mp hset
    exact .markers hmarkers (by simpa using hbelow)
  rcases bind_eq_error_iff.mp h with hpresets | ⟨laid, hlaid, hrest⟩
  · obtain ⟨name, hname, reached, -, hfails⟩ := exists_item_of_foldlM_eq_error
      (·.config.Registered) registered_of_addPreset hresolution hpresets
    obtain ⟨hunknown, rfl⟩ := unknown_of_addPreset_eq_error hfails
    exact .preset (mem_extends_of_mem_extended hname hunknown) hunknown
  · have hregistered : laid.config.Registered :=
      has_of_foldlM (·.config.Registered) registered_of_addPreset hresolution hlaid
    rcases bind_eq_error_iff.mp hrest with hcheck | ⟨_, -, hnever⟩
    · obtain ⟨name, hname, hnone, rfl⟩ := Config.exists_rule_of_validate_eq_error rfl hcheck
      rcases Config.mem_keys_merge hname with hown | hbefore
      · exact .rule hown hnone
      · have hsome := hregistered name hbefore
        rw [hnone] at hsome
        cases hsome
    · cases hnever

variable {workspace : Workspace} {fileName : String}

/-- A config file is loaded unless it cannot be read or its text is no configuration. -/
theorem badFile_of_load_eq_error {level : Level} {failure : Failure}
    (hfile : workspace.isFile (level.path.join fileName) = true)
    (h : Config.load workspace (level.path.join fileName) = .error failure) :
    BadFile workspace fileName level failure := by
  unfold Config.load at h
  split at h
  · next error hread =>
    cases h
    exact .unreadable hfile hread
  · next text hread =>
    split at h
    · next fault hparse =>
      cases h
      exact .malformed hfile hread hparse
    · cases h

/-- A level can be added to rules that exist, unless its config file cannot be used. -/
theorem badFile_of_step_eq_error {level : Level} {resolution : Resolution} {failure : Failure}
    (hresolution : resolution.config.Registered)
    (h : step workspace fileName resolution level = .error failure) :
    BadFile workspace fileName level failure := by
  simp only [step] at h
  split at h
  · next hfile =>
    rcases bind_eq_error_iff.mp h with hload | ⟨own, hload, hadded⟩
    · exact badFile_of_load_eq_error hfile hload
    · refine .misused hfile hload (misused_of_addLevel_eq_error ?_ hadded)
      exact hresolution
  · split at h
    · have hempty := misused_of_addLevel_eq_error hresolution h
      exact absurd hempty Config.not_misused_empty
    · cases h

/-- A level leaves rules that exist. -/
theorem registered_of_step {level : Level} {before after : Resolution}
    (hbefore : before.config.Registered) (h : step workspace fileName before level = .ok after) :
    after.config.Registered := by
  obtain ⟨added, -, hlaid⟩ := step_laidOver h
  by_cases hadded : added = []
  · have hsame : after.config = before.config := by rw [hlaid.config_eq, hadded, List.foldl_nil]
    rwa [hsame]
  · exact hlaid.registered hadded

/-- Where a directory in the base directory cannot be resolved, the levels down to one of them have
been passed, and the config file of this one cannot be used. -/
theorem exists_first_of_resolve_eq_error {root target : RepoPath} {failure : Failure}
    (hcontains : root.contains target = true)
    (h : resolve workspace target root fileName = .error failure) :
    ∃ above level below reached, levels root target = .ok (above ++ level :: below) ∧
      above.foldlM (step workspace fileName) start = .ok reached ∧
      BadFile workspace fileName level failure := by
  have hlevels := levels_of_contains hcontains
  unfold resolve at h
  rw [hlevels] at h
  have hstart : start.config.Registered := Config.registered_empty
  obtain ⟨above, level, below, reached, hsplit, hpassed, hreached, hfails⟩ :=
    exists_first_of_foldlM_eq_error (·.config.Registered) registered_of_step hstart h
  rw [hsplit] at hlevels
  exact ⟨above, level, below, reached, hlevels, hpassed,
    badFile_of_step_eq_error hreached hfails⟩

/-- A directory in the base directory can be resolved, unless a config file on the way to it cannot
be used. -/
theorem exists_badFile_of_resolve_eq_error {root target : RepoPath} {failure : Failure}
    (hcontains : root.contains target = true)
    (h : resolve workspace target root fileName = .error failure) :
    ∃ visited level, levels root target = .ok visited ∧ level ∈ visited ∧
      BadFile workspace fileName level failure := by
  obtain ⟨above, level, below, _, hlevels, -, hbad⟩ := exists_first_of_resolve_eq_error hcontains h
  exact ⟨_, level, hlevels, by simp, hbad⟩

/-- All rules of a resolution exist. -/
theorem registered_of_resolve {root target : RepoPath} {resolution : Resolution}
    (h : resolve workspace target root fileName = .ok resolution) :
    resolution.config.Registered := by
  obtain ⟨visited, -, hvisited⟩ := bind_eq_ok_iff.mp h
  exact has_of_foldlM (·.config.Registered) registered_of_step Config.registered_empty hvisited

end Resolution

end Conventions
