import Conventions.Proofs.Lint.DryRun
import Conventions.Proofs.Lint.FixThenClean

/-!
# What a pass may change

A pass without fixes changes nothing. A pass with fixes leaves all folders and files where they
are, and changes the contents only of files in which one of the two rules on names looks for the
name of a module that has this rule on. Where it has findings in the end, one of them says so.
-/

namespace Conventions

/-- A rule that may write looks for the name of a module in a file of the module: the rule on
names of packages in the manifest that its options name, and the rule on names of services in
the service description. -/
inductive RepoModule.KeepsName (module : RepoModule) : Rule → String → Prop
  | manifest (name : String) (hon : module.ruleEnabled .packageName = true)
      (hname : module.options? .packageName = some (.packageFile name)) :
      KeepsName module .packageName name
  | description (hon : module.ruleEnabled .serviceName = true) :
      KeepsName module .serviceName "serverless.yml"

/-- The files that are checked for names are those in which rules look for them. -/
theorem Scope.keepsName_of_mem_namedFiles {scope : Scope} {file : NamedFile}
    (h : file ∈ scope.namedFiles) :
    ∃ module ∈ scope.modules, ∃ name, module.KeepsName file.check.rule name ∧
      file.path = module.file name := by
  rcases List.mem_append.mp h with hmanifest | hdescription
  · obtain ⟨module, hmodule, hfile⟩ := List.mem_filterMap.mp hmanifest
    obtain ⟨hmodule, hon⟩ := List.mem_filter.mp hmodule
    obtain ⟨name, hname, rfl⟩ := Option.map_eq_some_iff.mp hfile
    refine ⟨module, hmodule, name, .manifest name hon ?_, rfl⟩
    change PackageName.fileName? module = some name at hname
    unfold PackageName.fileName? at hname
    split at hname
    · next other hoptions =>
      cases hname
      exact hoptions
    · cases hname
  · obtain ⟨module, hmodule, hfile⟩ := List.mem_filterMap.mp hdescription
    obtain ⟨hmodule, hon⟩ := List.mem_filter.mp hmodule
    obtain ⟨name, hname, rfl⟩ := Option.map_eq_some_iff.mp hfile
    cases hname
    exact ⟨module, hmodule, _, .description hon, rfl⟩

/-! ### Checks that write -/

/-- The findings say that the file was fixed by its check. -/
def NamedFile.ReportedFixed (file : NamedFile) (findings : List Finding) : Prop :=
  ∃ finding ∈ findings, file.IsAbout finding ∧ finding.isFixed = true

/-- What is reported by some findings is reported by more of them. -/
theorem NamedFile.ReportedFixed.mono {file : NamedFile} {findings more : List Finding}
    (h : file.ReportedFixed findings) (hsub : ∀ finding ∈ findings, finding ∈ more) :
    file.ReportedFixed more := by
  obtain ⟨finding, hfinding, habout, hfixed⟩ := h
  exact ⟨finding, hsub finding hfinding, habout, hfixed⟩

/-- A check changes the content of no other file than its own, and reports a change. -/
theorem NamedFile.Fixing.writes {file : NamedFile} {before after : Workspace}
    {findings : List Finding} (h : file.Fixing before findings after) {place : List String}
    (hchanged : after.root.contentAt? place ≠ before.root.contentAt? place) :
    before.locate file.path = .ok place ∧ file.ReportedFixed findings := by
  cases h with
  | absent => exact absurd rfl hchanged
  | inOrder => exact absurd rfl hchanged
  | refused => exact absurd rfl hchanged
  | fixed finding text after hfile hverdict hwrite habout hvalid hfixed =>
    obtain ⟨written, hwritten, -, rfl⟩ := Workspace.write_eq_ok hfile hwrite
    by_cases hplace : written = place
    · subst hplace
      exact ⟨hwritten, finding, by simp, habout, hfixed⟩
    · rw [FileTree.contentAt?_overwrite, if_neg hplace] at hchanged
      exact absurd rfl hchanged

/-- Checks change the contents only of their files, and report every change. -/
theorem checkNames_writes {workspace : Workspace} {files : List NamedFile} {place : List String}
    (hchanged : (checkNames true workspace files).2.root.contentAt? place ≠
      workspace.root.contentAt? place) :
    ∃ file ∈ files, workspace.locate file.path = .ok place ∧
      file.ReportedFixed (checkNames true workspace files).1 := by
  induction files generalizing workspace with
  | nil => exact absurd rfl hchanged
  | cons file rest ih =>
    rw [checkNames_cons] at hchanged ⊢
    have hfixing := file.run_fixing workspace
    -- The change is one that the first check makes, or else one behind it.
    by_cases hfirst : (NamedFile.run true workspace file).2.root.contentAt? place =
        workspace.root.contentAt? place
    · obtain ⟨other, hother, hplace, hreported⟩ := ih (hfirst.symm ▸ hchanged)
      refine ⟨other, List.mem_cons_of_mem _ hother, ?_, ?_⟩
      · rwa [hfixing.changedBy.outline.locate]
      · exact hreported.mono fun finding hfinding => List.mem_append_right _ hfinding
    · obtain ⟨hplace, hreported⟩ := hfixing.writes hfirst
      refine ⟨file, by simp, hplace, ?_⟩
      exact hreported.mono fun finding hfinding => List.mem_append_left _ hfinding

/-! ### A pass -/

/-- A pass leaves all folders and files where they are. -/
theorem lint_sameOutline (workspace : Workspace) (base : RepoPath) (configFile : String) :
    workspace.SameOutline (lint workspace base configFile true).2 := by
  rcases lint_snd_cases workspace base configFile true with hsame | ⟨scope, -, hchecked⟩
  · rw [hsame]
    rfl
  · rw [hchecked]
    exact (checkNames_changedBy workspace scope.namedFiles).outline

/-- A pass without fixes changes nothing, whether it fails or not. A pass with fixes adds and
removes nothing, and each file that it changes is one in which a rule that is on looks for the
name of a module that was discovered; if the pass has findings in the end, one of them says of
this file and this rule that it was fixed. -/
theorem lint_frame (workspace : Workspace) (base : RepoPath) (configFile : String) :
    (lint workspace base configFile false).2 = workspace ∧
    workspace.SameOutline (lint workspace base configFile true).2 ∧
    ∀ place, (lint workspace base configFile true).2.root.contentAt? place ≠
        workspace.root.contentAt? place →
      ∃ scope, Scope.load workspace base configFile true = .ok scope ∧
        ∃ module ∈ scope.modules, ∃ rule name, module.KeepsName rule name ∧
          workspace.locate (module.file name) = .ok place ∧
          ∀ findings, (lint workspace base configFile true).1 = .ok findings →
            ∃ finding ∈ findings, finding.resource = (module.file name).text ∧
              finding.rule = rule.name ∧ finding.isFixed = true := by
  refine ⟨lint_false_snd, lint_sameOutline workspace base configFile, fun place hchanged => ?_⟩
  rcases lint_snd_cases workspace base configFile true with hsame | ⟨scope, hload, hchecked⟩
  · rw [hsame] at hchanged
    exact absurd rfl hchanged
  · rw [hchecked] at hchanged
    obtain ⟨file, hfile, hplace, hreported⟩ := checkNames_writes hchanged
    obtain ⟨module, hmodule, name, hkeeps, hpath⟩ := Scope.keepsName_of_mem_namedFiles hfile
    rw [hpath] at hplace
    refine ⟨scope, hload, module, hmodule, _, name, hkeeps, hplace, fun findings hfindings => ?_⟩
    obtain ⟨seen, more, hseen, -, -, rfl⟩ := lint_eq_ok_iff.mp (Prod.ext hfindings rfl)
    cases hload.symm.trans hseen
    obtain ⟨finding, hfinding, ⟨hresource, hrule⟩, hfixed⟩ := hreported
    refine ⟨finding, ?_, by rw [hresource, hpath], hrule, hfixed⟩
    rw [mem_sortBy]
    exact List.mem_append_left _ hfinding

/-- The manifest that two modules share is changed, and said to be fixed for one of them. -/
theorem lint_frame_sharedManifest :
    ∃ scope, Scope.load (withManifests "../p") ⟨"."⟩ "config" true = .ok scope ∧
      ∃ module ∈ scope.modules, ∃ rule name, module.KeepsName rule name ∧
        (withManifests "../p").locate (module.file name) = .ok ["p"] ∧
        ∃ findings, (lint (withManifests "../p") ⟨"."⟩ "config" true).1 = .ok findings ∧
          ∃ finding ∈ findings, finding.resource = (module.file name).text ∧
            finding.rule = rule.name ∧ finding.isFixed = true := by
  have hrun : (match lint (withManifests "../p") ⟨"."⟩ "config" true with
    | (.ok _, left) => (left.root.contentAt? ["p"]).any fun
      | .text text => text != "\x7b\x7d"
      | .undecodable _ => false
    | (.error _, _) => false) = true := by decide +kernel
  obtain ⟨-, -, hwrites⟩ := lint_frame (withManifests "../p") ⟨"."⟩ "config"
  rcases hlint : lint (withManifests "../p") ⟨"."⟩ "config" true with ⟨failure | findings, left⟩
  · simp [hlint] at hrun
  · simp only [hlint] at hrun hwrites
    have hchanged : left.root.contentAt? ["p"] ≠
        (withManifests "../p").root.contentAt? ["p"] := by
      have hbefore : (withManifests "../p").root.contentAt? ["p"] =
        some (.text "\x7b\x7d") := by rfl
      intro hsame
      rw [hsame, hbefore] at hrun
      simp at hrun
    obtain ⟨scope, hscope, module, hmodule, rule, name, hkeeps, hplace, hfixed⟩ :=
      hwrites ["p"] hchanged
    exact ⟨scope, hscope, module, hmodule, rule, name, hkeeps, hplace, findings, rfl,
      hfixed findings rfl⟩

end Conventions
