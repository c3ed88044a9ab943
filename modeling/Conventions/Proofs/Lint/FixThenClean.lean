import Conventions.Proofs.Lint.Loading
import Conventions.Proofs.Lint.Passes

/-!
# Linting behind a fix

A finding that was fixed counts as valid, and a run ends with the first pass that leaves no
problem. What is left is then free of problems as far as the rules that only read are
concerned, and so are the files that this pass did not fix. A file that it did fix need not
be in order: another fix may have written the same file, or the text may not be read back as
it was meant. The fixes may also have changed what the repository is loaded from.
-/

namespace Conventions

/-- Linting without fixing gives a result, and finds no problem. -/
def LintsClean (workspace : Workspace) (base : RepoPath) (configFile : String) : Prop :=
  ∃ findings after, lint workspace base configFile false = (.ok findings, after) ∧
    ∀ finding ∈ findings, finding.valid = true

/-- The rules that only read find no problem. -/
def ReadsClean (scope : Scope) (workspace : Workspace) : Prop :=
  ∃ findings, (runRules scope workspace Rule.readers).1 = .ok findings ∧
    ∀ finding ∈ findings, finding.valid = true

variable {workspace left : Workspace} {base : RepoPath} {configFile : String} {scope : Scope}

/-- A repository is free of problems if all files that are checked for names are in order
and the other rules find nothing. -/
theorem lintsClean_iff {fix : Bool} (h : Scope.load workspace base configFile fix = .ok scope) :
    LintsClean workspace base configFile ↔
      (∀ file ∈ scope.namedFiles, file.InOrder workspace) ∧ ReadsClean scope workspace := by
  obtain ⟨hload, -⟩ := Scope.load_withFix h false
  obtain ⟨hleft, hnames⟩ := checkNames_without_fix workspace scope.namedFiles
  have hreaders := runRules_withFix_of_subset_readers (fun _ h => h) scope false workspace
  constructor
  · rintro ⟨findings, after, hlint, hvalid⟩
    obtain ⟨seen, more, hseen, rfl, hmore, rfl⟩ := lint_eq_ok_iff.mp hlint
    cases hload.symm.trans hseen
    simp only [mem_sortBy, List.forall_mem_append] at hvalid
    refine ⟨hnames.mp hvalid.1, more, ?_, hvalid.2⟩
    rw [← hreaders, ← hmore]
    exact congrArg (fun state => (runRules _ state Rule.readers).1) hleft.symm
  · rintro ⟨hinOrder, more, hmore, hvalid⟩
    refine ⟨_, _, lint_eq_ok_iff.mpr ⟨_, more, hload, hleft.symm, ?_, rfl⟩, ?_⟩
    · rw [hreaders, hmore]
    · simp only [mem_sortBy, List.forall_mem_append]
      exact ⟨hnames.mpr hinOrder, hvalid⟩

/-- A pass that fixes problems and leaves none: the name checks and the other rules leave
none, and what the name checks find is among the findings. -/
theorem clean_pass {findings : List Finding}
    (h : lint workspace base configFile true = (.ok findings, left))
    (hvalid : ∀ finding ∈ findings, finding.valid = true) :
    ∃ scope, Scope.load workspace base configFile true = .ok scope ∧
      left = (checkNames true workspace scope.namedFiles).2 ∧
      (∀ finding ∈ (checkNames true workspace scope.namedFiles).1,
        finding ∈ findings ∧ finding.valid = true) ∧
      ReadsClean scope left := by
  obtain ⟨scope, more, hload, hleft, hmore, rfl⟩ := lint_eq_ok_iff.mp h
  simp only [mem_sortBy, List.forall_mem_append] at hvalid
  refine ⟨scope, hload, hleft, fun finding hfinding => ⟨?_, hvalid.1 finding hfinding⟩,
    more, hmore, hvalid.2⟩
  rw [mem_sortBy]
  exact List.mem_append_left _ hfinding

/-- If a run that fixes problems leaves none, its last pass starts from some workspace with
some scope. The scope is the same on the workspace that is left, if none of the files that
it is loaded from was fixed. Provided that it is the same: linting again finds no problem
exactly if the files that were fixed in the last pass are in order for all their checks.
This is so if no two checks look at one file and each fix gives a text that its own check
takes to be in order. -/
theorem lintsClean_of_runPasses {report : LintReport}
    (hrun : runPasses workspace base configFile true = (.ok report, left))
    (hproblems : report.problems = 0) :
    ∃ earlier last scope, Passes base configFile true workspace (earlier ++ [last]) left ∧
      report.passes = earlier.length + 1 ∧
      Scope.load last.before base configFile true = .ok scope ∧
      ((∀ file ∈ Scope.sources last.before base configFile,
          ¬ FixedAt last.findings last.before file) →
        Scope.load left base configFile true = .ok scope) ∧
      (Scope.load left base configFile true = .ok scope →
        (LintsClean left base configFile ↔ ∀ file ∈ scope.namedFiles,
          FixedAt last.findings left file.path → file.InOrder left) ∧
        (Separate last.before scope.namedFiles →
          (∀ file ∈ scope.namedFiles, file.Mends last.before) →
          LintsClean left base configFile)) := by
  obtain ⟨earlier, last, hpasses, rfl, -⟩ := runPasses_eq_ok hrun
  rw [problems_of_recordAll, List.countP_eq_zero] at hproblems
  have hvalid : ∀ finding ∈ last.findings, finding.valid = true := fun finding hfinding => by
    simpa using hproblems finding hfinding
  obtain ⟨scope, hload, hleft, hnames, hreads⟩ := clean_pass hpasses.last hvalid
  have hfound : ∀ finding ∈ (checkNames true last.before scope.namedFiles).1,
      finding.valid = true := fun finding hfinding => (hnames finding hfinding).2
  refine ⟨earlier, last, scope, hpasses, ?_, hload, fun hsources => ?_, fun hsame => ⟨?_, ?_⟩⟩
  · rw [passes_of_recordAll]
    simp
  · have hchanged := lint_changedBy hpasses.last
    rw [← Scope.load_congr hchanged.outline fun file hfile =>
      (hchanged.read_eq file (hsources file hfile)).symm]
    exact hload
  · rw [lintsClean_iff hsame]
    constructor
    · exact fun hclean file hfile _ => hclean.1 file hfile
    · intro hsettled
      refine ⟨fun file hfile => ?_, hreads⟩
      rcases inOrder_or_fixedAt_of_checkNames hfound file hfile with hinOrder | hfixed
      · rwa [hleft]
      · rw [← hleft] at hfixed
        exact hsettled file hfile (hfixed.mono fun finding hfinding => (hnames finding hfinding).1)
  · intro hseparate hmends
    rw [lintsClean_iff hsame, hleft]
    refine ⟨inOrder_of_separate hfound hseparate hmends, ?_⟩
    rwa [← hleft]

/-! ### Fixes that stay and fixes that do not -/

/-- A repository with two modules, in which the manifest of each is the given file. -/
def withManifests (file : String) : Workspace where
  root := .folder [
    ("a", .folder [("p", .file (.text "\x7b\x7d"))]),
    ("b", .folder [("p", .file (.text "\x7b\x7d"))]),
    ("config", .file (.text ("\x7b\"extends\": [], \"module-markers\": [\"p\"], \"rules\": " ++
      "\x7b\"packagejson-same-name\": \x7b\"package-json-file\": \"" ++ file ++
      "\"\x7d\x7d\x7d"))),
    ("p", .file (.text "\x7b\x7d"))]
  current := []

/-- Where each module has a manifest of its own, both are fixed, and nothing is wrong
afterwards. -/
theorem lintsClean_withManifests : ∃ report left,
    runPasses (withManifests "p") ⟨"."⟩ "config" true = (.ok report, left) ∧
      report.problems = 0 ∧ report.fixed = 2 ∧ LintsClean left ⟨"."⟩ "config" := by
  have hrun : (match runPasses (withManifests "p") ⟨"."⟩ "config" true with
    | (.ok report, left) => report.problems == 0 && report.fixed == 2 && report.passes == 1 &&
        (Scope.sources (withManifests "p") ⟨"."⟩ "config").all
          fun file => (withManifests "p").read file == left.read file
    | (.error _, _) => false) = true := by decide +kernel
  have hnames : (match Scope.load (withManifests "p") ⟨"."⟩ "config" true with
    | .ok scope => scope.namedFiles.all fun file =>
        file.verdict (runPasses (withManifests "p") ⟨"."⟩ "config" true).2 == .inOrder
    | .error _ => false) = true := by decide +kernel
  split at hrun
  · next report left hreport =>
    simp only [Bool.and_eq_true, beq_iff_eq, List.all_eq_true] at hrun
    obtain ⟨⟨⟨hproblems, hfixed⟩, hpasses⟩, hsources⟩ := hrun
    obtain ⟨earlier, last, scope, hchain, hcount, hload, -, hclean⟩ :=
      lintsClean_of_runPasses hreport hproblems
    obtain rfl : earlier = [] := List.eq_nil_of_length_eq_zero (by omega)
    have hlint := hchain.last
    rw [hchain.1] at hlint hload
    simp only [hload, hreport, beq_iff_eq, List.all_eq_true] at hnames
    have hsame : Scope.load left ⟨"."⟩ "config" true = .ok scope := by
      rw [← Scope.load_congr (lint_changedBy hlint).outline hsources, hload]
    refine ⟨report, left, hreport, hproblems, hfixed, (hclean hsame).1.mpr ?_⟩
    exact fun file hfile _ _ => hnames file hfile
  · cases hrun

/-- A run that leaves no problem can leave one for the next run: the manifest that two
modules share gets the name of the last one. -/
theorem not_lintsClean_of_sharedManifest :
    ¬ ∀ workspace left base configFile report,
      runPasses workspace base configFile true = (.ok report, left) → report.problems = 0 →
        LintsClean left base configFile := by
  intro h
  have hrun : (match runPasses (withManifests "../p") ⟨"."⟩ "config" true with
    | (.ok report, left) => report.problems == 0 &&
        match lint left ⟨"."⟩ "config" false with
        | (.ok findings, _) => findings.any (!·.valid)
        | (.error _, _) => false
    | (.error _, _) => false) = true := by decide +kernel
  split at hrun
  · next report left hreport =>
    simp only [Bool.and_eq_true, beq_iff_eq] at hrun
    obtain ⟨findings, after, hlint, hvalid⟩ := h _ _ _ _ _ hreport hrun.1
    obtain ⟨-, hany⟩ := hrun
    simp only [hlint, List.any_eq_true, Bool.not_eq_true'] at hany
    obtain ⟨finding, hfinding, hinvalid⟩ := hany
    rw [hvalid finding hfinding] at hinvalid
    cases hinvalid
  · cases hrun

end Conventions
