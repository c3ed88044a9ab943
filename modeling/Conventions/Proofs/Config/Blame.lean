import Conventions.Proofs.Config.Failures
import Conventions.Proofs.Insertion

/-!
# Which config file is to blame

After every level a resolution checks all rules that are set so far, whichever file has set them,
and names the file of the level. This file is the one to blame: a level that has been passed has
no config file that cannot be used, so that the rules of the levels above need no check any more.
The failure is that of the first level on the way with a bad file.
-/

namespace Conventions

/-- The config file that a failure names, as its message has it. -/
def Failure.configFile? : Failure → Option String
  | .unreadableConfig file _ => some file.text
  | .unknownRule _ file => some file.text
  | .markersBelowRoot file => some file.text
  | .unknownPreset _ referencedFrom => some referencedFrom
  | .missingRules file => some file.text
  | _ => none

/-- The rules of a configuration stay set where it is laid over another one. -/
theorem Config.Ordered.mem_keys_merge {child : Config} (h : child.Ordered) (parent : Config)
    {name : String} (hname : name ∈ Entries.keys child.rules) :
    name ∈ Entries.keys (parent.merge child).rules := by
  have hset : (child.rule? name).isSome = true := Entries.mem_keys_iff_isSome.mp hname
  refine Entries.mem_keys_iff_isSome.mpr ?_
  change ((parent.merge child).rule? name).isSome = true
  rw [Config.rule?_merge h, Option.isSome_or, hset, Bool.true_or]

namespace Resolution

variable {workspace : Workspace} {fileName : String} {level : Level} {before after : Resolution}
  {failure : Failure}

/-! ### Levels that are passed -/

/-- A level extends all presets that its settings name. -/
theorem mem_extended_of_mem_extends {own : Config} {name : String}
    (h : name ∈ own.extends?.getD []) : name ∈ extended level own := by
  unfold extended
  cases hextends : own.extends? with
  | none => simp [hextends] at h
  | some names => simpa [hextends] using h

/-- What a level lays over a resolution is not misused. -/
theorem not_misused_of_addLevel {file : RepoPath} {own : Config} (hown : own.Ordered)
    (h : addLevel level file own before = .ok after) : ¬ own.Misused level file failure := by
  unfold addLevel at h
  split at h
  · cases h
  next hallowed =>
  obtain ⟨laid, hpresets, h⟩ := bind_eq_ok_iff.mp h
  obtain ⟨_, hchecked, -⟩ := bind_eq_ok_iff.mp h
  intro hmisused
  cases hmisused with
  | markers hmarkers hbelow =>
    rw [hmarkers, hbelow] at hallowed
    exact hallowed rfl
  | @preset name hname hunknown =>
    obtain ⟨_, _, hadded⟩ := exists_ok_of_foldlM hpresets name (mem_extended_of_mem_extends hname)
    obtain ⟨preset, hpreset, -⟩ := bind_eq_ok_iff.mp hadded
    rw [Preset.resolve_eq_error_iff.mpr ⟨hunknown, rfl⟩] at hpreset
    cases hpreset
  | @rule name hname hunknown =>
    have hexists := Config.registered_of_validate hchecked name (hown.mem_keys_merge _ hname)
    rw [hunknown] at hexists
    cases hexists

/-- A level that is passed has no bad config file. -/
theorem not_badFile_of_step (h : step workspace fileName before level = .ok after) :
    ¬ BadFile workspace fileName level failure := by
  intro hbad
  cases hbad with
  | unreadable hfile hread =>
    simp [step, hfile, Config.load, hread, bind, Except.bind] at h
  | malformed hfile hread hparse =>
    simp [step, hfile, Config.load, hread, hparse, bind, Except.bind] at h
  | misused hfile hload hmisused =>
    simp only [step, hfile, if_true, hload] at h
    exact not_misused_of_addLevel (Config.ordered_of_load hload) h hmisused

/-- Levels that are passed one after the other have no bad config files. -/
theorem not_badFile_of_foldlM_step {visited : List Level}
    (h : visited.foldlM (step workspace fileName) before = .ok after) :
    ∀ level ∈ visited, ∀ failure, ¬ BadFile workspace fileName level failure := by
  intro level hlevel failure
  obtain ⟨_, _, hstep⟩ := exists_ok_of_foldlM h level hlevel
  exact not_badFile_of_step hstep

/-- A directory can be resolved exactly if it is in the base directory and no level on the way to it
has a bad config file. -/
theorem exists_resolve_iff {root target : RepoPath} :
    (∃ result, resolve workspace target root fileName = .ok result) ↔
      ∃ visited, levels root target = .ok visited ∧
        ∀ level ∈ visited, ∀ failure, ¬ BadFile workspace fileName level failure := by
  constructor
  · rintro ⟨result, hresult⟩
    obtain ⟨visited, hvisited, hpassed⟩ := bind_eq_ok_iff.mp hresult
    exact ⟨visited, hvisited, not_badFile_of_foldlM_step hpassed⟩
  · rintro ⟨visited, hvisited, hgood⟩
    obtain ⟨way, hway, -⟩ := bind_eq_ok_iff.mp hvisited
    have hcontains := contains_of_between hway
    cases hresult : resolve workspace target root fileName with
    | ok result => exact ⟨result, rfl⟩
    | error failure =>
      obtain ⟨others, level, hothers, hlevel, hbad⟩ :=
        exists_badFile_of_resolve_eq_error hcontains hresult
      cases hvisited.symm.trans hothers
      exact absurd hbad (hgood level hlevel failure)

/-! ### The level that is not passed -/

/-- A failure for a bad config file names this file, if it names any. -/
theorem BadFile.configFile_eq {named : String} (h : BadFile workspace fileName level failure)
    (hnamed : failure.configFile? = some named) : named = (level.path.join fileName).text := by
  cases h with
  | unreadable => cases hnamed
  | malformed =>
    cases hnamed
    rfl
  | misused _ _ hmisused =>
    cases hmisused with
    | markers | preset | rule =>
      cases hnamed
      rfl

/-- A bad config file is there. -/
theorem BadFile.isFile (h : BadFile workspace fileName level failure) :
    workspace.isFile (level.path.join fileName) = true := by
  cases h <;> assumption

/-- The config file of a level below a root is not the one of the root. -/
theorem not_same_join_of_mem_levelsBelow {root : RepoPath} {names : List String}
    (hnames : ∀ name ∈ names, RepoPath.IsName name) (hfile : RepoPath.IsName fileName)
    (h : level ∈ levelsBelow root names) :
    (level.path.join fileName).same (root.join fileName) = false := by
  obtain ⟨name, rest, hbelow⟩ := components_of_mem_levelsBelow hnames h
  rw [← Bool.not_eq_true, RepoPath.same_iff, level.path.components_join hfile,
    root.components_join hfile, hbelow]
  intro heq
  have hlength := congrArg List.length heq
  simp at hlength

/-- Where a directory cannot be resolved because of a config file, the file that the failure names
is the config file of a level between the base directory and this one. It is there, it is itself bad
in the way that the failure says, and no level above has a bad config file of any kind. The file of
a level below the root is not the file of the root. -/
theorem resolve_blames_first {root target : RepoPath} {named : String}
    (h : resolve workspace target root fileName = .error failure)
    (hnamed : failure.configFile? = some named) :
    ∃ above level below, levels root target = .ok (above ++ level :: below) ∧
      named = (level.path.join fileName).text ∧
      workspace.isFile (level.path.join fileName) = true ∧
      BadFile workspace fileName level failure ∧
      (∀ upper ∈ above, ∀ other, ¬ BadFile workspace fileName upper other) ∧
      (level.isRoot = false → RepoPath.IsName fileName →
        (level.path.join fileName).same (root.join fileName) = false) := by
  have hcontains : root.contains target = true := by
    by_contra houtside
    have hlevels : levels root target = .error (.outsideRoot target root) :=
      levels_eq_error_iff.mpr ⟨by simpa using houtside, rfl⟩
    unfold resolve at h
    rw [hlevels] at h
    cases h
    cases hnamed
  obtain ⟨above, level, below, reached, hlevels, hpassed, hbad⟩ :=
    exists_first_of_resolve_eq_error hcontains h
  refine ⟨above, level, below, hlevels, hbad.configFile_eq hnamed, hbad.isFile, hbad,
    not_badFile_of_foldlM_step hpassed, fun hroot hfile => ?_⟩
  have hmem : level ∈ above ++ level :: below := by simp
  rw [← Except.ok.inj ((levels_of_contains hcontains).symm.trans hlevels)] at hmem
  rcases List.mem_cons.mp hmem with rfl | hbelow
  · cases hroot
  · exact not_same_join_of_mem_levelsBelow
      (fun name hname => RepoPath.isName_of_mem_names hname) hfile hbelow

/-- A repository whose base directory may set markers, with a directory in it that sets a rule that
does not exist, and in that one more directory with a config file that cannot be read. -/
def twoBadConfigs : Workspace where
  root := .folder [
    ("a", .folder [
      ("b", .folder [("config", .file (.text "nothing"))]),
      ("config", .file (.text "\x7b\"rules\": \x7b\"no-such-rule\": false\x7d\x7d"))]),
    ("config", .file (.text "\x7b\"module-markers\": [\"p\"]\x7d"))]
  current := []

/-- Of two bad config files on the way, the upper one is named. -/
theorem resolve_blames_first_twoBadConfigs :
    resolve twoBadConfigs ⟨"./a/b"⟩ ⟨"."⟩ "config" =
        .error (.unknownRule "no-such-rule" ⟨"./a/config"⟩) ∧
      ∃ above level below, levels ⟨"."⟩ ⟨"./a/b"⟩ = .ok (above ++ level :: below) ∧
        level = ⟨⟨"./a"⟩, false⟩ ∧ twoBadConfigs.isFile (level.path.join "config") = true ∧
        BadFile twoBadConfigs "config" level (.unknownRule "no-such-rule" ⟨"./a/config"⟩) ∧
        (∀ upper ∈ above, ∀ other, ¬ BadFile twoBadConfigs "config" upper other) ∧
        (level.path.join "config").same (RepoPath.join ⟨"."⟩ "config") = false := by
  have hrun : (match resolve twoBadConfigs ⟨"./a/b"⟩ ⟨"."⟩ "config" with
    | .ok _ => false
    | .error failure => decide (failure = .unknownRule "no-such-rule" ⟨"./a/config"⟩)) = true := by
    decide +kernel
  have hfails : resolve twoBadConfigs ⟨"./a/b"⟩ ⟨"."⟩ "config" =
      .error (.unknownRule "no-such-rule" ⟨"./a/config"⟩) := by
    split at hrun
    · cases hrun
    · next failure hfailure => rw [hfailure, of_decide_eq_true hrun]
  obtain ⟨above, level, below, hway, hnamed, hfile, hbad, hgood, hother⟩ :=
    resolve_blames_first hfails rfl
  have hlevels : levels ⟨"."⟩ ⟨"./a/b"⟩ =
      .ok [⟨⟨"."⟩, true⟩, ⟨⟨"./a"⟩, false⟩, ⟨⟨"./a/b"⟩, false⟩] := by decide
  have hmem : level ∈ [⟨⟨"."⟩, true⟩, ⟨⟨"./a"⟩, false⟩, ⟨⟨"./a/b"⟩, false⟩] := by
    rw [Except.ok.inj (hlevels.symm.trans hway)]
    simp
  -- The config files of the three levels have different names.
  obtain rfl : level = ⟨⟨"./a"⟩, false⟩ := by
    simp only [List.mem_cons, List.not_mem_nil, or_false] at hmem
    rcases hmem with rfl | rfl | rfl
    · exact absurd hnamed (by decide)
    · rfl
    · exact absurd hnamed (by decide)
  have hname : RepoPath.IsName "config" := ⟨by decide, by decide, by decide, by decide⟩
  exact ⟨hfails, above, _, below, hway, rfl, hfile, hbad, hgood, hother rfl hname⟩

end Resolution

end Conventions
