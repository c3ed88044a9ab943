import Conventions.Proofs.Config.Resolution

/-!
# Resolutions go on from those above

The way from a root to a directory is the start of the ways to everything in it. So a
resolution begins with the one of any directory on its way: it fails where that one fails, and
otherwise adds to it what the levels further down say.
-/

namespace Conventions

/-! ### Ways -/

/-- The way to what is in a directory is the way to the directory and then the levels below
its last one. -/
theorem levels_append {root upper lower : RepoPath} (hupper : root.contains upper = true)
    (hlower : upper.contains lower = true) :
    ∃ above lowest, levels root upper = .ok above ∧ above.getLast? = some lowest ∧
      levels root lower = .ok (above ++ levelsBelow lowest.path
        (RepoPath.names (lower.components.drop upper.components.length))) := by
  obtain ⟨first, hfirst⟩ := RepoPath.contains_iff.mp hupper
  obtain ⟨second, hsecond⟩ := RepoPath.contains_iff.mp hlower
  have hdown : lower.components.drop root.components.length = first ++ second := by
    rw [← hsecond, ← hfirst, List.append_assoc, List.drop_left]
  have hlast := getLast?_path_levels root true (RepoPath.names first)
  obtain ⟨lowest, hlowest, hpath⟩ := Option.map_eq_some_iff.mp hlast
  refine ⟨_, lowest, levels_of_contains hupper, ?_, ?_⟩
  · rwa [← hfirst, List.drop_left]
  · rw [levels_of_contains (RepoPath.contains_trans hupper hlower), hdown, ← hsecond, ← hfirst,
      List.drop_left, List.drop_left, hpath, RepoPath.names, List.filterMap_append,
      levelsBelow_append]
    rfl

namespace Resolution

/-! ### Levels further down -/

/-- What went into a resolution went first into another one. -/
structure Precedes (before after : Resolution) : Prop where
  files : before.files <+: after.files
  presets : before.presets <+: after.presets

/-- A resolution starts with itself. -/
theorem Precedes.refl (resolution : Resolution) : resolution.Precedes resolution :=
  ⟨List.prefix_refl _, List.prefix_refl _⟩

/-- A start of a start is a start. -/
theorem Precedes.trans {first second third : Resolution} (h : first.Precedes second)
    (h' : second.Precedes third) : first.Precedes third :=
  ⟨h.files.trans h'.files, h.presets.trans h'.presets⟩

/-- A preset is put behind those before it. -/
theorem precedes_of_addPreset {file : RepoPath} {before after : Resolution} {name : String}
    (h : addPreset file before name = .ok after) : before.Precedes after := by
  obtain ⟨preset, -, hafter⟩ := bind_eq_ok_iff.mp h
  cases hafter
  exact ⟨List.prefix_refl _, List.prefix_append _ _⟩

/-- What a level says is put behind what is resolved so far. -/
theorem precedes_of_addLevel {level : Level} {file : RepoPath} {own : Config}
    {before after : Resolution} (h : addLevel level file own before = .ok after) :
    before.Precedes after := by
  unfold addLevel at h
  split at h
  · cases h
  · obtain ⟨extended, hextended, hrest⟩ := bind_eq_ok_iff.mp h
    obtain ⟨_, -, hafter⟩ := bind_eq_ok_iff.mp hrest
    cases hafter
    have hpresets : before.Precedes extended :=
      foldlM_of_step Precedes.refl Precedes.trans precedes_of_addPreset hextended
    exact ⟨hpresets.files, hpresets.presets⟩

variable {workspace : Workspace} {fileName : String}

/-- Files and presets of a level are put behind those of the levels above. -/
theorem precedes_of_step {level : Level} {before after : Resolution}
    (h : step workspace fileName before level = .ok after) : before.Precedes after := by
  simp only [step] at h
  split at h
  · obtain ⟨own, -, hadded⟩ := bind_eq_ok_iff.mp h
    have hlevel := precedes_of_addLevel hadded
    exact ⟨(List.prefix_append _ _).trans hlevel.files, hlevel.presets⟩
  · split at h
    · exact precedes_of_addLevel h
    · cases h
      exact Precedes.refl _

/-- Levels below the root that have no config file add nothing. -/
theorem foldlM_step_of_no_files {visited : List Level} (resolution : Resolution)
    (hroot : ∀ level ∈ visited, level.isRoot = false)
    (hfiles : ∀ level ∈ visited, workspace.isFile (level.path.join fileName) = false) :
    visited.foldlM (step workspace fileName) resolution = .ok resolution := by
  induction visited with
  | nil => rfl
  | cons level rest ih =>
    obtain ⟨hlevel, hrest⟩ := List.forall_mem_cons.mp hroot
    obtain ⟨hfile, hothers⟩ := List.forall_mem_cons.mp hfiles
    have hstep : step workspace fileName resolution level = .ok resolution := by
      simp [step, hfile, hlevel, pure, Except.pure]
    rw [List.foldlM_cons, hstep]
    exact ih hrest hothers

/-- A resolution on the way to a directory goes on from the resolution of every directory
above: it goes through the same levels and then those in between. -/
theorem resolve_eq_bind {root upper lower : RepoPath} {above below : List Level}
    (hupper : levels root upper = .ok above) (hlower : levels root lower = .ok (above ++ below)) :
    resolve workspace lower root fileName =
      resolve workspace upper root fileName >>= below.foldlM (step workspace fileName) := by
  unfold resolve
  rw [hupper, hlower]
  exact List.foldlM_append

/-- The resolution of a directory in another one, `lower` in `upper`, continues that of the
other one. If `upper` cannot be resolved, `lower` fails in the same way. If both are resolved,
the files and the presets of `upper` are the first ones of `lower`. The way to `lower` is that
to `upper`, followed by the levels below the last one of it; if none of these has a config
file, the resolutions are the same. -/
theorem resolve_continues {root upper lower : RepoPath} (hupper : root.contains upper = true)
    (hlower : upper.contains lower = true) :
    (∀ failure, resolve workspace upper root fileName = .error failure →
      resolve workspace lower root fileName = .error failure) ∧
    (∀ before after, resolve workspace upper root fileName = .ok before →
      resolve workspace lower root fileName = .ok after →
        before.files <+: after.files ∧ before.presets <+: after.presets) ∧
    ∃ above lowest below, levels root upper = .ok above ∧ above.getLast? = some lowest ∧
      below = levelsBelow lowest.path
        (RepoPath.names (lower.components.drop upper.components.length)) ∧
      levels root lower = .ok (above ++ below) ∧
      ((∀ level ∈ below, workspace.isFile (level.path.join fileName) = false) →
        resolve workspace lower root fileName = resolve workspace upper root fileName) := by
  obtain ⟨above, lowest, habove, hlowest, hbelow⟩ := levels_append hupper hlower
  have hresolve : resolve workspace lower root fileName =
      resolve workspace upper root fileName >>= _ := resolve_eq_bind habove hbelow
  refine ⟨?_, ?_, above, lowest, _, habove, hlowest, rfl, hbelow, ?_⟩
  · intro failure hfailure
    rw [hresolve, hfailure]
    rfl
  · intro before after hbefore hafter
    rw [hresolve, hbefore] at hafter
    have hprecedes : before.Precedes after :=
      foldlM_of_step Precedes.refl Precedes.trans precedes_of_step hafter
    exact ⟨hprecedes.files, hprecedes.presets⟩
  · intro hfiles
    rw [hresolve]
    cases hresult : resolve workspace upper root fileName with
    | error failure => rfl
    | ok resolution =>
      exact foldlM_step_of_no_files resolution
        (fun level hlevel => isRoot_of_mem_levelsBelow hlevel) hfiles

/-- A directory without a config file, in one that has one, is resolved like that one, and the
files and presets of the base directory come first. -/
theorem resolve_continues_layeredConfigs :
    resolve layeredConfigs ⟨"./a/b"⟩ ⟨"."⟩ "config" =
      resolve layeredConfigs ⟨"./a"⟩ ⟨"."⟩ "config" ∧
    ∃ before after, resolve layeredConfigs ⟨"."⟩ ⟨"."⟩ "config" = .ok before ∧
      resolve layeredConfigs ⟨"./a"⟩ ⟨"."⟩ "config" = .ok after ∧
      before.files <+: after.files ∧ before.presets <+: after.presets ∧
      before.files.length < after.files.length := by
  constructor
  · obtain ⟨-, -, above, lowest, below, habove, hlowest, hbelow, -, hsame⟩ :=
      resolve_continues (by decide +kernel : RepoPath.contains ⟨"."⟩ ⟨"./a"⟩ = true)
        (by decide +kernel : RepoPath.contains ⟨"./a"⟩ ⟨"./a/b"⟩ = true)
    have hway : levels ⟨"."⟩ ⟨"./a"⟩ = .ok [⟨⟨"."⟩, true⟩, ⟨⟨"./a"⟩, false⟩] := by rfl
    cases hway.symm.trans habove
    cases hlowest
    subst hbelow
    exact hsame (by decide +kernel)
  · have hrun : ((resolve layeredConfigs ⟨"."⟩ ⟨"."⟩ "config").toOption.any fun before =>
        (resolve layeredConfigs ⟨"./a"⟩ ⟨"."⟩ "config").toOption.any fun after =>
          decide (before.files.length < after.files.length)) = true := by decide +kernel
    obtain ⟨before, hbefore, hrest⟩ := exists_ok_of_any hrun
    obtain ⟨after, hafter, hlonger⟩ := exists_ok_of_any hrest
    obtain ⟨-, hprefix, -⟩ :=
      resolve_continues (by decide +kernel : RepoPath.contains ⟨"."⟩ ⟨"."⟩ = true)
        (by decide +kernel : RepoPath.contains ⟨"."⟩ ⟨"./a"⟩ = true)
    obtain ⟨hfiles, hpresets⟩ := hprefix before after hbefore hafter
    exact ⟨before, after, hbefore, hafter, hfiles, hpresets, of_decide_eq_true hlonger⟩

end Resolution

end Conventions
