import Conventions.Proofs.Config.Blame

/-!
# How bad config files are reported

Where a directory cannot be resolved, it is outside of the base directory or a config file on the
way to it is bad. If this file holds a text, the failure is one of the configuration, and its
message tells the path of the file. If it holds bytes that are no text, the failure is none of the
configuration, and its message is the same for every file.
-/

namespace Conventions

/-- The message of a failure tells the path of a file. -/
def Failure.Mentions (failure : Failure) (file : RepoPath) : Prop :=
  file.text.toList <:+: failure.message.toList

/-- A failure that names a config file is one of the configuration, and its message has the name
between other texts. -/
theorem Failure.exists_message_of_configFile? {failure : Failure} {named : String}
    (h : failure.configFile? = some named) :
    failure.isConfigError = true ∧ ∃ before after, failure.message = before ++ named ++ after := by
  unfold message
  cases failure with
  | unreadableConfig file reason =>
    obtain rfl : file.text = named := Option.some.inj h
    exact ⟨rfl, "Error loading ", ": " ++ reason, String.append_assoc⟩
  | unknownRule rule file =>
    obtain rfl : file.text = named := Option.some.inj h
    exact ⟨rfl, "Rule '" ++ rule ++ "' is not valid (referenced in ", ")", by with_reducible rfl⟩
  | markersBelowRoot file =>
    obtain rfl : file.text = named := Option.some.inj h
    exact ⟨rfl, "'module-markers' is only valid on monorepo root level configuration (", ")",
      by with_reducible rfl⟩
  | unknownPreset name referencedFrom =>
    obtain rfl : referencedFrom = named := Option.some.inj h
    exact ⟨rfl, "Cannot find extension '" ++ name ++ "' defined in ", "", String.append_empty.symm⟩
  | missingRules file =>
    obtain rfl : file.text = named := Option.some.inj h
    exact ⟨rfl, "Config has no rule configurations (", ")", by with_reducible rfl⟩
  | _ => cases h

/-- A failure that names a config file mentions it. -/
theorem Failure.mentions_of_configFile? {failure : Failure} {file : RepoPath}
    (h : failure.configFile? = some file.text) : failure.Mentions file := by
  obtain ⟨-, before, after, hmessage⟩ := exists_message_of_configFile? h
  rw [Mentions, hmessage, String.toList_append, String.toList_append]
  exact List.infix_append _ _ _

namespace Resolution

variable {workspace : Workspace} {fileName : String} {level : Level} {failure : Failure}

/-- A file that is there can be read unless its bytes are no text. -/
theorem exists_bytes_of_read_eq_error {file : RepoPath} {error : AccessError}
    (hfile : workspace.isFile file = true) (h : workspace.read file = .error error) :
    error = .notText ∧ ∃ bytes, workspace.find file = .ok (.file (.undecodable bytes)) := by
  unfold Workspace.isFile at hfile
  split at hfile
  · next content hfound =>
    rw [Workspace.read, hfound] at h
    cases content with
    | text value => cases h
    | undecodable bytes =>
      cases h
      exact ⟨rfl, bytes, hfound⟩
  · cases hfile

/-- A config file that is loaded holds a text. -/
theorem exists_text_of_load {file : RepoPath} {own : Config}
    (h : Config.load workspace file = .ok own) : ∃ text, workspace.read file = .ok text := by
  unfold Config.load at h
  split at h
  · cases h
  · next text hread => exact ⟨text, hread⟩

/-- Why a bad config file is bad is told with its name if it holds a text. -/
theorem BadFile.cases_content (h : BadFile workspace fileName level failure) :
    ((∃ text, workspace.read (level.path.join fileName) = .ok text) ∧
        failure.configFile? = some (level.path.join fileName).text) ∨
      (∃ bytes, workspace.find (level.path.join fileName) = .ok (.file (.undecodable bytes))) ∧
        failure = .access .notText := by
  cases h with
  | unreadable hfile hread =>
    obtain ⟨rfl, hbytes⟩ := exists_bytes_of_read_eq_error hfile hread
    exact Or.inr ⟨hbytes, rfl⟩
  | malformed hfile hread hparse => exact Or.inl ⟨⟨_, hread⟩, rfl⟩
  | misused hfile hload hmisused =>
    refine Or.inl ⟨exists_text_of_load hload, ?_⟩
    cases hmisused with
    | markers | preset | rule => rfl

/-- Where a directory cannot be resolved, it is outside of the base directory, or a config file on
the way to it is bad. The failure is one of the configuration, unless it is for a config file with
bytes that are no text, and its message tells the path of the config file. For a file with such
bytes the failure is one of access, whose message is the same for every file. -/
theorem resolve_reports {root target : RepoPath}
    (h : resolve workspace target root fileName = .error failure) :
    (root.contains target = false ∧ failure = .outsideRoot target root ∧
      failure.isConfigError = true) ∨
    ∃ visited level, levels root target = .ok visited ∧ level ∈ visited ∧
      BadFile workspace fileName level failure ∧
      (failure.isConfigError = true ∧ failure.Mentions (level.path.join fileName) ∧
          (∃ text, workspace.read (level.path.join fileName) = .ok text) ∨
        failure.isConfigError = false ∧ failure.message = AccessError.notText.text ∧
          ∃ bytes, workspace.find (level.path.join fileName) =
            .ok (.file (.undecodable bytes))) := by
  cases hcontains : root.contains target with
  | false =>
    have hlevels : levels root target = .error (.outsideRoot target root) :=
      levels_eq_error_iff.mpr ⟨hcontains, rfl⟩
    rw [resolve, hlevels] at h
    cases h
    exact Or.inl ⟨rfl, rfl, rfl⟩
  | true =>
    obtain ⟨visited, level, hvisited, hlevel, hbad⟩ :=
      exists_badFile_of_resolve_eq_error hcontains h
    refine Or.inr ⟨visited, level, hvisited, hlevel, hbad, ?_⟩
    rcases hbad.cases_content with ⟨htext, hnamed⟩ | ⟨hbytes, rfl⟩
    · obtain ⟨hconfig, -⟩ := Failure.exists_message_of_configFile? hnamed
      exact Or.inl ⟨hconfig, Failure.mentions_of_configFile? hnamed, htext⟩
    · exact Or.inr ⟨rfl, rfl, hbytes⟩

/-- A repository with a config file that holds bytes which are no text, and one that holds a text
which is no configuration. -/
def unreadableConfigs : Workspace where
  root := .folder [
    ("a", .folder [("config", .file (.undecodable ⟨#[0xff]⟩))]),
    ("b", .folder [("config", .file (.text "nothing"))])]
  current := []

/-- The failure for a text that is no configuration names the file that holds it. -/
theorem resolve_reports_unreadableConfigs :
    ∃ failure, resolve unreadableConfigs ⟨"./b"⟩ ⟨"."⟩ "config" = .error failure ∧
      failure.isConfigError = true ∧ failure.Mentions ⟨"./b/config"⟩ := by
  have hrun : (match resolve unreadableConfigs ⟨"./b"⟩ ⟨"."⟩ "config" with
    | .ok _ => false
    | .error failure => failure.isConfigError) = true := by decide +kernel
  split at hrun
  · cases hrun
  next failure hfailure =>
  refine ⟨failure, hfailure, hrun, ?_⟩
  rcases resolve_reports hfailure with
    ⟨houtside, -⟩ | ⟨visited, level, hvisited, hlevel, hbad, hcases⟩
  · exact absurd houtside (by decide)
  have hway : levels ⟨"."⟩ ⟨"./b"⟩ = .ok [⟨⟨"."⟩, true⟩, ⟨⟨"./b"⟩, false⟩] := by decide
  obtain rfl := Except.ok.inj (hvisited.symm.trans hway)
  -- There is no config file in the base directory.
  obtain rfl : level = ⟨⟨"./b"⟩, false⟩ := by
    have hfile := hbad.isFile
    simp only [List.mem_cons, List.not_mem_nil, or_false] at hlevel
    rcases hlevel with rfl | rfl
    · exact absurd hfile (by decide +kernel)
    · rfl
  rcases hcases with ⟨-, hmentions, -⟩ | ⟨hother, -⟩
  · exact hmentions
  · rw [hrun] at hother
    cases hother

/-- The failure for bytes that are no text is not one of the configuration, and does not tell which
file holds them. -/
theorem not_reported_undecodable :
    resolve unreadableConfigs ⟨"./a"⟩ ⟨"."⟩ "config" = .error (.access .notText) ∧
      (Failure.access .notText).isConfigError = false ∧
      ¬ (Failure.access .notText).Mentions ⟨"./a/config"⟩ := by
  have hrun : (match resolve unreadableConfigs ⟨"./a"⟩ ⟨"."⟩ "config" with
    | .ok _ => false
    | .error failure => decide (failure = .access .notText)) = true := by decide +kernel
  split at hrun
  · cases hrun
  next failure hfailure =>
  rw [hfailure, of_decide_eq_true hrun]
  refine ⟨rfl, rfl, ?_⟩
  unfold Failure.Mentions
  decide +kernel

end Resolution

end Conventions
