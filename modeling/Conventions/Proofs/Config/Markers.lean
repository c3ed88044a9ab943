import Conventions.Proofs.Config.Blame

/-!
# Markers below the root

Below the root a config file cannot set markers: what is below it cannot be resolved if it does.
But the presets that it extends may bring some, and these are put behind the ones of the root. So a
directory has the markers of the root exactly if no config file in between extends such a preset.
-/

namespace Conventions

namespace Preset

/-- The markers that a preset brings; none if no preset has the name. -/
def markersOf (name : String) : List String :=
  match resolve name name with
  | .ok preset => preset.markers
  | .error _ => []

/-- The settings of a preset do not depend on where it is named. -/
theorem resolve_of_ok {name referencedFrom : String} {preset : Config}
    (h : resolve name referencedFrom = .ok preset) (other : String) :
    resolve name other = .ok preset := by
  unfold resolve resolveFrom at h ⊢
  split at h
  · cases h
  next hchain =>
  rw [if_neg hchain]
  cases hdeclared : declared? name with
  | none =>
    rw [hdeclared] at h
    cases h
  | some declared =>
    rw [hdeclared] at h
    exact h

/-- The settings of a preset have the markers that it brings. -/
theorem markers_of_resolve {name referencedFrom : String} {preset : Config}
    (h : resolve name referencedFrom = .ok preset) : preset.markers = markersOf name := by
  rw [markersOf, resolve_of_ok h name]

/-- All presets but three bring no markers. -/
theorem markersOf_eq_nil_iff {name : String} :
    markersOf name = [] ↔ name ∉ [packageJson, serverless, recommended] := by
  have hall : ∀ name ∈ names,
      markersOf name = [] ↔ name ∉ [packageJson, serverless, recommended] := by decide +kernel
  by_cases hname : name ∈ names
  · exact hall name hname
  · have hunknown : declared? name = none := by
      rw [Option.eq_none_iff_forall_not_mem]
      exact fun preset hpreset => hname (mem_names_of_declared? hpreset)
    have hnone : markersOf name = [] := by
      rw [markersOf, resolve_eq_error_iff.mpr ⟨hunknown, rfl⟩]
    have hsubset : [packageJson, serverless, recommended] ⊆ names := by decide
    exact iff_of_true hnone fun hmem => hname (hsubset hmem)

end Preset

namespace Resolution

variable {workspace : Workspace} {fileName : String}

/-- The presets that the config file of a level names; none if there is no such file. -/
def named (workspace : Workspace) (fileName : String) (level : Level) : List String :=
  if workspace.isFile (level.path.join fileName) then
    match Config.load workspace (level.path.join fileName) with
    | .ok own => own.extends?.getD []
    | .error _ => []
  else []

/-- The presets of a level bring their markers. -/
theorem flatMap_markers_of_mapM {file : RepoPath} {names : List String} {presets : List Config}
    (h : names.mapM (fun name => Preset.resolve name file.text) = .ok presets) :
    presets.flatMap Config.markers = names.flatMap Preset.markersOf := by
  have hmarkers : presets.map Config.markers = names.map Preset.markersOf :=
    map_eq_of_mapM (fun hpreset => Preset.markers_of_resolve hpreset) h
  rw [List.flatMap_def, hmarkers, ← List.flatMap_def]

/-- What a level below the root says brings the markers of the presets that it names, if it does not
set markers itself. -/
theorem flatMap_markers_of_contributions {level : Level} {added : List Config}
    (hbelow : level.isRoot = false)
    (hunset : ∀ own, workspace.isFile (level.path.join fileName) = true →
      Config.load workspace (level.path.join fileName) = .ok own → own.markers? = none)
    (h : contributions workspace fileName level = .ok added) :
    added.flatMap Config.markers = (named workspace fileName level).flatMap Preset.markersOf := by
  unfold contributions at h
  unfold named
  by_cases hfile : workspace.isFile (level.path.join fileName) = true
  · rw [if_pos hfile] at h ⊢
    obtain ⟨own, hown, hsaid⟩ := bind_eq_ok_iff.mp h
    obtain ⟨presets, hpresets, hadded⟩ := bind_eq_ok_iff.mp hsaid
    cases hadded
    have hextended : extended level own = own.extends?.getD [] := by
      simp [extended, hbelow]
    have hnone : own.markers = [] := by
      rw [Config.markers, hunset own hfile hown, Option.getD_none]
    rw [hown, List.flatMap_append, flatMap_markers_of_mapM hpresets, hextended]
    simp [hnone]
  · rw [if_neg hfile, hbelow] at h
    cases h
    rw [if_neg hfile]
    rfl

/-- What several levels below the root say brings the markers of the presets that they name. -/
theorem flatMap_markers_of_mapM_contributions {below : List Level} {groups : List (List Config)}
    (hbelow : ∀ level ∈ below, level.isRoot = false)
    (hunset : ∀ level ∈ below, ∀ own, workspace.isFile (level.path.join fileName) = true →
      Config.load workspace (level.path.join fileName) = .ok own → own.markers? = none)
    (h : below.mapM (contributions workspace fileName) = .ok groups) :
    groups.flatten.flatMap Config.markers =
      below.flatMap fun level => (named workspace fileName level).flatMap Preset.markersOf := by
  have hall := mapM_eq_ok_iff.mp h
  clear h
  induction hall with
  | nil => rfl
  | cons hfirst _ ih =>
    obtain ⟨hlevel, hlevels⟩ := List.forall_mem_cons.mp hbelow
    obtain ⟨hown, howns⟩ := List.forall_mem_cons.mp hunset
    rw [List.flatten_cons, List.flatMap_append, List.flatMap_cons, ih hlevels howns,
      flatMap_markers_of_contributions hlevel hown hfirst]

/-- Levels below the root that are passed add the markers of the presets that they name. -/
theorem markers_of_foldlM_step {below : List Level} (hbelow : ∀ level ∈ below, level.isRoot = false)
    (hunset : ∀ level ∈ below, ∀ own, workspace.isFile (level.path.join fileName) = true →
      Config.load workspace (level.path.join fileName) = .ok own → own.markers? = none)
    {before after : Resolution} (h : below.foldlM (step workspace fileName) before = .ok after) :
    after.config.markers = before.config.markers ++
      below.flatMap fun level => (named workspace fileName level).flatMap Preset.markersOf := by
  obtain ⟨groups, hgroups, hlaid⟩ := foldlM_step_laidOver h
  rw [hlaid.config_eq, Config.markers_foldl_merge,
    flatMap_markers_of_mapM_contributions hbelow hunset hgroups]

/-- Markers are set in a resolution, if only to none. -/
theorem markers?_of_resolve {root target : RepoPath} {result : Resolution}
    (h : resolve workspace target root fileName = .ok result) :
    result.config.markers? = some result.config.markers := by
  obtain ⟨visited, hvisited, hrun⟩ := bind_eq_ok_iff.mp h
  obtain ⟨below, rfl⟩ := levels_eq_root_cons hvisited
  obtain ⟨groups, hgroups, hlaid⟩ := foldlM_step_laidOver hrun
  rw [hlaid.config_eq]
  exact (Config.foldl_merge_fields (flatten_ne_nil_of_root hgroups) _).2

/-- A config file of a level below the root that is passed does not set markers. -/
theorem markers?_of_step {level : Level} {before after : Resolution} (hbelow : level.isRoot = false)
    (h : step workspace fileName before level = .ok after) {own : Config}
    (hfile : workspace.isFile (level.path.join fileName) = true)
    (hown : Config.load workspace (level.path.join fileName) = .ok own) : own.markers? = none := by
  cases hmarkers : own.markers? with
  | none => rfl
  | some markers =>
    have hmisused : own.Misused level (level.path.join fileName) _ :=
      .markers (by rw [hmarkers, Option.isSome_some]) hbelow
    exact absurd (BadFile.misused hfile hown hmisused) (not_badFile_of_step h)

/-- A directory is resolved by going on from the resolution of the root. -/
theorem exists_base_of_resolve {root target : RepoPath} {result : Resolution}
    (h : resolve workspace target root fileName = .ok result) :
    ∃ base below, resolve workspace root root fileName = .ok base ∧
      levels root target = .ok (⟨root, true⟩ :: below) ∧ (∀ level ∈ below, level.isRoot = false) ∧
      below.foldlM (step workspace fileName) base = .ok result := by
  obtain ⟨visited, hvisited, -⟩ := bind_eq_ok_iff.mp h
  obtain ⟨way, hway, -⟩ := bind_eq_ok_iff.mp hvisited
  have hself : root.contains root = true := RepoPath.contains_iff.mpr (List.prefix_refl _)
  have htop : levels root root = .ok [⟨root, true⟩] := by
    rw [levels_of_contains hself, List.drop_length]
    rfl
  have hlevels := levels_of_contains (contains_of_between hway)
  rw [resolve_eq_bind htop hlevels] at h
  obtain ⟨base, hbase, hrun⟩ := bind_eq_ok_iff.mp h
  exact ⟨base, _, hbase, hlevels, fun level hlevel => isRoot_of_mem_levelsBelow hlevel, hrun⟩

/-- The markers of a directory that can be resolved are those of the root, which can then be
resolved too, and behind them those of the presets that config files below the root name. No config
file below the root sets markers. So a directory has the markers of the root exactly if no config
file below it on the way names one of the three presets that bring some. -/
theorem resolve_markers {root target : RepoPath} {result : Resolution}
    (h : resolve workspace target root fileName = .ok result) :
    ∃ base below, resolve workspace root root fileName = .ok base ∧
      levels root target = .ok (⟨root, true⟩ :: below) ∧
      (∀ level ∈ below, ∀ own, workspace.isFile (level.path.join fileName) = true →
        Config.load workspace (level.path.join fileName) = .ok own → own.markers? = none) ∧
      result.config.markers? = some (base.config.markers ++
        below.flatMap fun level => (named workspace fileName level).flatMap Preset.markersOf) ∧
      (result.config.markers? = base.config.markers? ↔
        ∀ level ∈ below, ∀ name ∈ named workspace fileName level,
          name ∉ [Preset.packageJson, Preset.serverless, Preset.recommended]) := by
  obtain ⟨base, below, hbase, hlevels, hbelow, hrun⟩ := exists_base_of_resolve h
  have hunset : ∀ level ∈ below, ∀ own, workspace.isFile (level.path.join fileName) = true →
      Config.load workspace (level.path.join fileName) = .ok own → own.markers? = none := by
    intro level hlevel own
    obtain ⟨_, _, hstep⟩ := exists_ok_of_foldlM hrun level hlevel
    exact markers?_of_step (hbelow level hlevel) hstep
  have hmarkers := markers_of_foldlM_step hbelow hunset hrun
  refine ⟨base, below, hbase, hlevels, hunset, ?_, ?_⟩
  · rw [markers?_of_resolve h, hmarkers]
  · rw [markers?_of_resolve h, markers?_of_resolve hbase, Option.some_inj, hmarkers,
      List.append_right_eq_self, List.flatMap_eq_nil_iff]
    refine forall₂_congr fun level _ => ?_
    rw [List.flatMap_eq_nil_iff]
    exact forall₂_congr fun name _ => Preset.markersOf_eq_nil_iff

/-- A directory whose config file names a preset with markers has them behind those of the root. -/
theorem resolve_markers_layeredConfigs :
    ∃ base result below, resolve layeredConfigs ⟨"."⟩ ⟨"."⟩ "config" = .ok base ∧
      resolve layeredConfigs ⟨"./a/b"⟩ ⟨"."⟩ "config" = .ok result ∧
      levels ⟨"."⟩ ⟨"./a/b"⟩ = .ok (⟨⟨"."⟩, true⟩ :: below) ∧
      below.map (named layeredConfigs "config") = [[Preset.serverless], []] ∧
      base.config.markers = ["p"] ∧
      result.config.markers? = some (["p"] ++ Preset.markersOf Preset.serverless) ∧
      result.config.markers? ≠ base.config.markers? := by
  have hrun : ((resolve layeredConfigs ⟨"./a/b"⟩ ⟨"."⟩ "config").toOption.any
      fun _ => true) = true := by decide +kernel
  have hbaseRun : ((resolve layeredConfigs ⟨"."⟩ ⟨"."⟩ "config").toOption.any fun base =>
      base.config.markers == ["p"]) = true := by decide +kernel
  obtain ⟨result, hresult, -⟩ := exists_ok_of_any hrun
  obtain ⟨other, hother, hmarkers⟩ := exists_ok_of_any hbaseRun
  obtain ⟨base, below, hbase, hlevels, -, hboth, hsame⟩ := resolve_markers hresult
  cases hother.symm.trans hbase
  have hway : levels ⟨"."⟩ ⟨"./a/b"⟩ =
      .ok [⟨⟨"."⟩, true⟩, ⟨⟨"./a"⟩, false⟩, ⟨⟨"./a/b"⟩, false⟩] := by decide
  obtain rfl : below = [⟨⟨"./a"⟩, false⟩, ⟨⟨"./a/b"⟩, false⟩] :=
    (List.cons.inj (Except.ok.inj (hlevels.symm.trans hway))).2
  have hnamed : [⟨⟨"./a"⟩, false⟩, ⟨⟨"./a/b"⟩, false⟩].map (named layeredConfigs "config") =
      [[Preset.serverless], []] := by decide +kernel
  have hfirst : named layeredConfigs "config" ⟨⟨"./a"⟩, false⟩ = [Preset.serverless] :=
    (List.cons.inj hnamed).1
  have hsecond : named layeredConfigs "config" ⟨⟨"./a/b"⟩, false⟩ = [] :=
    (List.cons.inj (List.cons.inj hnamed).2).1
  rw [beq_iff_eq] at hmarkers
  rw [hmarkers, List.flatMap_cons, List.flatMap_cons, hfirst, hsecond] at hboth
  refine ⟨other, result, _, hother, hresult, hlevels, hnamed, hmarkers, ?_, fun heq => ?_⟩
  · simpa using hboth
  · have hnone := hsame.mp heq _ List.mem_cons_self Preset.serverless (by rw [hfirst]; simp)
    exact hnone (by decide)

/-- A directory does not always have the markers of the root: its config file can extend a preset
that brings some. -/
theorem not_markers_of_root :
    ¬ ∀ (workspace : Workspace) (target root : RepoPath) (fileName : String)
      (result base : Resolution), resolve workspace target root fileName = .ok result →
        resolve workspace root root fileName = .ok base →
          result.config.markers? = base.config.markers? := by
  intro hclaim
  have hrun : ((resolve layeredConfigs ⟨"./a"⟩ ⟨"."⟩ "config").toOption.any fun result =>
      result.config.markers? == some ["p", "serverless.yml"]) = true := by decide +kernel
  have hbaseRun : ((resolve layeredConfigs ⟨"."⟩ ⟨"."⟩ "config").toOption.any fun base =>
      base.config.markers? == some ["p"]) = true := by decide +kernel
  obtain ⟨result, hresult, hmarkers⟩ := exists_ok_of_any hrun
  obtain ⟨base, hbase, hbaseMarkers⟩ := exists_ok_of_any hbaseRun
  have hsame := hclaim layeredConfigs ⟨"./a"⟩ ⟨"."⟩ "config" result base hresult hbase
  rw [beq_iff_eq] at hmarkers hbaseMarkers
  rw [hmarkers, hbaseMarkers] at hsame
  cases hsame

end Resolution

end Conventions
