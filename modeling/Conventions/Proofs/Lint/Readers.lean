import Conventions.Proofs.Lint.Rules
import Conventions.Proofs.SameContents.Reference

/-!
# Rules that offer no fix

Two rules say how names are put in order. What the others find bears the name of the rule that
found it and says nothing about a fix.
-/

namespace Conventions

/-- The finding is one of a rule, and says nothing about a fix. -/
structure Finding.IsPlainOf (rule : Rule) (finding : Finding) : Prop where
  rule_eq : finding.rule = rule.name
  fix?_eq : finding.fix? = none

/-- A finding has no fix when it is made. -/
theorem Finding.isPlainOf_of (rule : Rule) (valid : Bool) (resource message : String) :
    (Finding.of rule valid resource message).IsPlainOf rule := ⟨rfl, rfl⟩

/-- A finding about a module is one of the same rule and has the same fix. -/
theorem Finding.IsPlainOf.about {rule : Rule} {finding : Finding} (h : finding.IsPlainOf rule)
    (module : RepoModule) : (finding.about module).IsPlainOf rule := ⟨h.rule_eq, h.fix?_eq⟩

variable (workspace : Workspace)

/-- What is found in a list of items is found in one of them. -/
theorem exists_of_mem_checkAll {α : Type} {check : α → Except Failure (List Finding)}
    {items : List α} {findings : List Finding} (h : checkAll check items = .ok findings)
    {finding : Finding} (hfinding : finding ∈ findings) :
    ∃ item ∈ items, ∃ found, check item = .ok found ∧ finding ∈ found := by
  obtain ⟨results, hresults, hflat⟩ := bind_eq_ok_iff.mp h
  cases hflat
  obtain ⟨found, hfound, hmem⟩ := List.mem_flatten.mp hfinding
  obtain ⟨item, hitem, hcheck⟩ := exists_item_of_mapM hresults hfound
  exact ⟨item, hitem, found, hcheck, hmem⟩

/-- Checks of items find what the check of one item finds. -/
theorem Finding.IsPlainOf.of_checkAll {rule : Rule} {α : Type}
    {check : α → Except Failure (List Finding)} {items : List α} {findings : List Finding}
    (hplain : ∀ item found, check item = .ok found → ∀ finding ∈ found, finding.IsPlainOf rule)
    (h : checkAll check items = .ok findings) :
    ∀ finding ∈ findings, finding.IsPlainOf rule := by
  intro finding hfinding
  obtain ⟨item, -, found, hfound, hmem⟩ := exists_of_mem_checkAll h hfinding
  exact hplain item found hfound finding hmem

/-- The name of a module is not changed. -/
theorem ModuleName.plain_checkPattern (module : RepoModule) :
    ∀ finding ∈ checkPattern module, finding.IsPlainOf .namePattern := by
  unfold checkPattern
  split
  · intro finding hfinding
    obtain rfl := List.mem_singleton.mp hfinding
    refine Finding.IsPlainOf.about ?_ module
    split
    · exact Finding.isPlainOf_of _ _ _ _
    · exact Finding.isPlainOf_of _ _ _ _
  · simp

/-- Modules with the name of another one keep it. -/
theorem ModuleName.plain_checkUnique (modules : List RepoModule) (module : RepoModule) :
    (checkUnique modules module).IsPlainOf .uniqueName := by
  refine Finding.IsPlainOf.about ?_ module
  split
  · exact Finding.isPlainOf_of _ _ _ _
  · exact Finding.isPlainOf_of _ _ _ _

/-- Files that are missing are not made. -/
theorem RequiredFiles.plain_check (module : RepoModule) :
    ∀ finding ∈ check workspace module, finding.IsPlainOf .requiredFiles := by
  unfold check
  split
  · rw [List.forall_mem_map]
    exact fun name _ => (Finding.isPlainOf_of _ _ _ _).about module
  · simp

/-- Folders that are missing are not made, and others are not removed. -/
theorem Folders.plain_check (module : RepoModule) (findings : List Finding)
    (h : check workspace module = .ok findings) :
    ∀ finding ∈ findings, finding.IsPlainOf .folderStructure := by
  have hpattern (folders) (pattern : CompiledGlob) :
      (checkPattern module folders pattern).IsPlainOf .folderStructure :=
    (Finding.isPlainOf_of _ _ _ _).about module
  have hrefuse (folder) : (refuse module folder).IsPlainOf .folderStructure :=
    (Finding.isPlainOf_of _ _ _ _).about module
  unfold check at h
  split at h
  · split at h
    · cases h
      simp
    · obtain ⟨patterns, -, hfindings⟩ := bind_eq_ok_iff.mp h
      cases hfindings
      rw [List.forall_mem_append, List.forall_mem_map]
      refine ⟨fun pattern _ => hpattern _ pattern, ?_⟩
      split
      · rw [List.forall_mem_map]
        exact fun folder _ => hrefuse folder
      · simp
  · cases h
    simp

/-- Modules are not moved. -/
theorem ParentFolder.plain_check (base : RepoPath) (module : RepoModule)
    (findings : List Finding) (h : check base module = .ok findings) :
    ∀ finding ∈ findings, finding.IsPlainOf .parentFolder := by
  unfold check at h
  split at h
  · split at h
    · cases h
      simp
    · obtain ⟨patterns, -, hfindings⟩ := bind_eq_ok_iff.mp h
      cases hfindings
      rw [List.forall_mem_singleton]
      exact (Finding.isPlainOf_of _ _ _ _).about module
  · cases h
    simp

/-- Workflow files are not renamed. -/
theorem Workflows.plain_checkFile (folder : RepoPath) (modules : List RepoModule)
    (suffixes : List String) (file : String) :
    (checkFile folder modules suffixes file).IsPlainOf .workflowNames := by
  simp only [checkFile]
  split
  · exact Finding.isPlainOf_of _ _ _ _
  · split
    · exact (Finding.isPlainOf_of _ _ _ _).about _
    · exact Finding.isPlainOf_of _ _ _ _

/-- What is found in the workflow files as a whole offers no fix. -/
theorem Workflows.plain_check {scope : Scope} {workspace : Workspace} {findings : List Finding}
    (h : check scope workspace = .ok findings) :
    ∀ finding ∈ findings, finding.IsPlainOf .workflowNames := by
  unfold check at h
  split at h
  · cases h
    simp
  · obtain ⟨options, -, h⟩ := bind_eq_ok_iff.mp h
    split at h
    · cases h
      rw [List.forall_mem_map]
      exact fun file _ => plain_checkFile _ _ _ file
    · cases h
      simp

/-- A workflow file that is missing is not made. -/
theorem Workflows.plain_checkSuffix (folder : RepoPath) (files : List String)
    (module : RepoModule) (suffix : String) (findings : List Finding)
    (h : checkSuffix folder files module suffix = .ok findings) :
    ∀ finding ∈ findings, finding.IsPlainOf .workflowNames := by
  obtain ⟨pattern, -, hfindings⟩ := bind_eq_ok_iff.mp h
  cases hfindings
  rw [List.forall_mem_singleton]
  refine Finding.IsPlainOf.about ?_ module
  split
  · exact Finding.isPlainOf_of _ _ _ _
  · exact Finding.isPlainOf_of _ _ _ _

/-- Workflow files of a module that are missing are not made. -/
theorem Workflows.plain_checkModule (folder : RepoPath) (files : List String)
    (module : RepoModule) (findings : List Finding)
    (h : checkModule folder files module = .ok findings) :
    ∀ finding ∈ findings, finding.IsPlainOf .workflowNames := by
  unfold checkModule at h
  split at h
  · exact Finding.IsPlainOf.of_checkAll (plain_checkSuffix folder files module) h
  · cases h
    simp

namespace SameContents

variable (round : Similarity.Rounding)

/-- A score offers no fix. -/
theorem plain_judge (reference : RepoModule) (entry : FileEntry) (target : String) (score : Rat) :
    (judge reference entry target score).IsPlainOf .sameContents := by
  simp only [judge]
  split
  · exact Finding.isPlainOf_of _ _ _ _
  · exact Finding.isPlainOf_of _ _ _ _

/-- Scores of a part offer no fix. -/
theorem plain_judgeScores (reference : RepoModule) (entry : FileEntry) (target : String)
    (scores : Similarity.Scores) :
    ∀ finding ∈ judgeScores reference entry target scores, finding.IsPlainOf .sameContents := by
  simp only [judgeScores, List.forall_mem_cons]
  refine ⟨plain_judge _ _ _ _, ?_⟩
  split
  · rw [List.forall_mem_map]
    exact fun score _ => plain_judge _ _ _ _
  · simp

/-- A part is not changed. -/
theorem plain_comparePart (reference module : RepoModule) (entry : FileEntry)
    (referenceDocument document : Json) (selector : Selector) :
    ∀ finding ∈ comparePart round reference module entry referenceDocument document selector,
      finding.IsPlainOf .sameContents := by
  simp only [comparePart]
  split
  · rw [List.forall_mem_singleton]
    exact Finding.isPlainOf_of _ _ _ _
  · rw [List.forall_mem_singleton]
    exact Finding.isPlainOf_of _ _ _ _
  · simp
  · split
    · rw [List.forall_mem_singleton]
      exact Finding.isPlainOf_of _ _ _ _
    · exact plain_judgeScores _ _ _ _

/-- Parts of a file offer no fix. -/
theorem plain_compareParts (reference module : RepoModule) (entry : FileEntry) :
    ∀ finding ∈ compareParts round workspace reference module entry,
      finding.IsPlainOf .sameContents := by
  simp only [compareParts]
  split
  · rw [List.forall_mem_singleton]
    exact Finding.isPlainOf_of _ _ _ _
  · split
    · rw [List.forall_mem_singleton]
      exact Finding.isPlainOf_of _ _ _ _
    · rw [List.forall_mem_flatMap]
      exact fun selector _ => plain_comparePart _ _ _ _ _ _ _

/-- A file is not changed. -/
theorem plain_compareFile (reference module : RepoModule) (entry : FileEntry) :
    ∀ finding ∈ compareFile round workspace reference module entry,
      finding.IsPlainOf .sameContents := by
  simp only [compareFile]
  split
  · simp
  · split
    · rw [List.forall_mem_singleton]
      simp only [compareWhole]
      split
      · exact Finding.isPlainOf_of _ _ _ _
      · split
        · exact plain_judge _ _ _ _
        · exact Finding.isPlainOf_of _ _ _ _
    · exact plain_compareParts _ _ _ _ _

/-- Modules are not made similar to their reference. -/
theorem plain_compareAll (options : Options) (members : List RepoModule) (reference : RepoModule) :
    ∀ finding ∈ compareAll round workspace options members reference,
      finding.IsPlainOf .sameContents := by
  simp only [compareAll, compareFiles, List.forall_mem_flatMap, List.forall_mem_map]
  exact fun module _ entry _ finding hfinding =>
    (plain_compareFile workspace round reference module entry finding hfinding).about module

/-- No comparison of a group with its reference offers a fix. -/
theorem plain_compareGroup (modules : List RepoModule) (group : Group) :
    ∀ finding ∈ compareGroup round workspace modules group, finding.IsPlainOf .sameContents := by
  unfold compareGroup
  split
  · unfold compareNamed
    split
    · exact plain_compareAll _ _ _ _ _
    · rw [List.forall_mem_singleton]
      exact Finding.isPlainOf_of _ _ _ _
    · rw [List.forall_mem_singleton]
      exact Finding.isPlainOf_of _ _ _ _
  · by_cases hleaders : (leaders round workspace group).members = []
    · simp [compareBest, hleaders]
    · obtain ⟨reference, -, hbest⟩ := compareBest_of_leaders round workspace group hleaders
      rw [hbest]
      exact plain_compareAll _ _ _ _ _

end SameContents

/-- What a rule that does not write finds in modules is its own and offers no fix. -/
theorem Rule.plain_of_checkModules {rule : Rule} (h : rule ∈ readers) {scope : Scope}
    {workspace : Workspace} {modules : List RepoModule} {findings : List Finding}
    (hchecked : (rule.checkModules scope workspace modules).1 = .ok findings) :
    ∀ finding ∈ findings, finding.IsPlainOf rule := by
  simp only [readers, List.mem_cons, List.not_mem_nil, or_false] at h
  rcases h with rfl | rfl | rfl | rfl | rfl | rfl | rfl
  · cases hchecked
    exact List.forall_mem_flatMap.mpr fun module _ => ModuleName.plain_checkPattern module
  · cases hchecked
    exact List.forall_mem_map.mpr fun module _ => ModuleName.plain_checkUnique modules module
  · cases hchecked
    exact List.forall_mem_flatMap.mpr fun module _ => RequiredFiles.plain_check workspace module
  · exact Finding.IsPlainOf.of_checkAll (Folders.plain_check workspace) hchecked
  · exact Finding.IsPlainOf.of_checkAll (ParentFolder.plain_check scope.base) hchecked
  · exact Finding.IsPlainOf.of_checkAll (Workflows.plain_checkModule _ _) hchecked
  · cases hchecked
    exact List.forall_mem_flatMap.mpr fun group _ =>
      SameContents.plain_compareGroup workspace _ scope.modules group

/-- What a rule that does not write finds in the repository as a whole is its own and offers no
fix. -/
theorem Rule.plain_of_checkBase {rule : Rule} {scope : Scope} {workspace : Workspace}
    {findings : List Finding} (h : rule.checkBase scope workspace = .ok findings) :
    ∀ finding ∈ findings, finding.IsPlainOf rule := by
  cases rule with
  | workflowNames => exact Workflows.plain_check h
  | _ =>
    cases h
    simp

/-- What a rule finds that does not write is its own and offers no fix. -/
theorem Rule.plain_of_run {rule : Rule} (h : rule ∈ readers) {scope : Scope}
    {workspace : Workspace} {findings : List Finding}
    (hrun : (rule.run scope workspace).1 = .ok findings) :
    ∀ finding ∈ findings, finding.IsPlainOf rule := by
  cases hbase : if scope.config.ruleEnabled rule.name then rule.checkBase scope workspace
      else .ok [] with
  | error reason => simp [Rule.run, hbase] at hrun
  | ok found =>
    rw [Rule.run_of_base hbase] at hrun
    obtain ⟨more, hmore, rfl⟩ := map_eq_ok_iff.mp hrun
    rw [List.forall_mem_append]
    refine ⟨?_, Rule.plain_of_checkModules h hmore⟩
    split at hbase
    · exact Rule.plain_of_checkBase hbase
    · cases hbase
      simp

/-- What rules find that do not write is each one's own and offers no fix. -/
theorem plain_of_runRules {rules : List Rule} (h : ∀ rule ∈ rules, rule ∈ Rule.readers)
    {scope : Scope} {workspace : Workspace} {findings : List Finding}
    (hrun : (runRules scope workspace rules).1 = .ok findings) :
    ∀ finding ∈ findings, ∃ rule ∈ rules, finding.IsPlainOf rule := by
  induction rules generalizing workspace findings with
  | nil =>
    cases hrun
    simp
  | cons rule rest ih =>
    obtain ⟨hrule, hrest⟩ := List.forall_mem_cons.mp h
    unfold runRules at hrun
    split at hrun
    · cases hrun
    · next found after hfound =>
      split at hrun
      · cases hrun
      · next more left hmore =>
        cases hrun
        rw [List.forall_mem_append]
        constructor
        · intro finding hfinding
          exact ⟨rule, by simp, Rule.plain_of_run hrule (by rw [hfound]) finding hfinding⟩
        · intro finding hfinding
          obtain ⟨other, hother, hplain⟩ := ih hrest (by rw [hmore]) finding hfinding
          exact ⟨other, List.mem_cons_of_mem _ hother, hplain⟩

/-- Rules that do not write offer no fix. -/
theorem fix?_eq_none_of_runRules {rules : List Rule} (h : ∀ rule ∈ rules, rule ∈ Rule.readers)
    {scope : Scope} {workspace : Workspace} {findings : List Finding}
    (hrun : (runRules scope workspace rules).1 = .ok findings) :
    ∀ finding ∈ findings, finding.fix? = none := by
  intro finding hfinding
  obtain ⟨rule, -, hplain⟩ := plain_of_runRules h hrun finding hfinding
  exact hplain.fix?_eq

end Conventions
