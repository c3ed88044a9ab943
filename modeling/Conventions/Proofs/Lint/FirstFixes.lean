import Conventions.Proofs.Lint.Passes
import Conventions.Proofs.Lint.Readers

/-!
# The report on several passes

Fixes are kept from pass to pass under keys, which join the name of a rule and a resource by a
colon. No name of a rule has a colon in it, so a key stands for one rule and one resource. What
is kept for them is the first fix that a pass has reported, and the report shows the findings of
the last pass with these fixes.
-/

namespace Conventions

/-! ### Keys -/

/-- The names of rules have no colon in them. -/
theorem Rule.colon_notMem_name (rule : Rule) : ':' ∉ rule.name.toList := by
  cases rule <;> decide

/-- What is in front of the first separator is what a text starts with. -/
theorem append_cons_inj_of_notMem_left {α : Type} [DecidableEq α] {separator : α}
    {start start' rest rest' : List α} (h : separator ∉ start) (h' : separator ∉ start')
    (heq : start ++ separator :: rest = start' ++ separator :: rest') :
    start = start' ∧ rest = rest' := by
  have hstart (first more : List α) (hfirst : separator ∉ first) :
      (first ++ separator :: more).takeWhile (· ≠ separator) = first := by
    rw [List.takeWhile_append_of_pos fun item hitem => by
      simpa using ne_of_mem_of_not_mem hitem hfirst]
    simp
  have hsame : start = start' := by
    rw [← hstart start rest h, heq, hstart start' rest' h']
  subst hsame
  exact ⟨rfl, (List.cons.inj (List.append_cancel_left heq)).2⟩

/-- A finding is one of a rule. -/
def Finding.OfRule (finding : Finding) : Prop := ∃ rule : Rule, finding.rule = rule.name

/-- Findings of rules have one key if they have the same rule and resource. -/
theorem Finding.OfRule.fixKey_eq_iff {finding other : Finding} (h : finding.OfRule)
    (h' : other.OfRule) : finding.fixKey = other.fixKey ↔
      finding.rule = other.rule ∧ finding.resource = other.resource := by
  constructor
  · intro hkey
    obtain ⟨rule, hrule⟩ := h
    obtain ⟨rule', hrule'⟩ := h'
    have hchars : finding.rule.toList ++ ':' :: finding.resource.toList =
        other.rule.toList ++ ':' :: other.resource.toList := by
      have htexts := congrArg String.toList hkey
      simpa [fixKey] using htexts
    have hcolon : ':' ∉ finding.rule.toList := hrule ▸ rule.colon_notMem_name
    have hcolon' : ':' ∉ other.rule.toList := hrule' ▸ rule'.colon_notMem_name
    obtain ⟨hrules, hresources⟩ := append_cons_inj_of_notMem_left hcolon hcolon' hchars
    exact ⟨String.toList_inj.mp hrules, String.toList_inj.mp hresources⟩
  · rintro ⟨hrule, hresource⟩
    unfold fixKey
    rw [hrule, hresource]

/-- All findings of a pass are of rules. -/
theorem ofRule_of_lint {workspace left : Workspace} {base : RepoPath} {configFile : String}
    {fix : Bool} {findings : List Finding}
    (h : lint workspace base configFile fix = (.ok findings, left)) :
    ∀ finding ∈ findings, finding.OfRule := by
  obtain ⟨scope, more, -, -, hmore, rfl⟩ := lint_eq_ok_iff.mp h
  intro finding hfinding
  rw [mem_sortBy, List.mem_append] at hfinding
  rcases hfinding with hnames | hreads
  · obtain ⟨file, -, -, hrule⟩ := exists_isAbout_of_mem_checkNames hnames
    exact ⟨file.check.rule, hrule⟩
  · obtain ⟨rule, -, hplain⟩ := plain_of_runRules (fun _ h => h) hmore finding hreads
    exact ⟨rule, hplain.rule_eq⟩

/-! ### Fixes that are kept -/

namespace FirstFixes

/-- The fix of a finding, if it is kept under a key. -/
def fixFor? (key : String) (finding : Finding) : Option Fix :=
  if finding.fixKey = key then finding.fix? else none

/-- A fix is added unless there is one for its key. -/
theorem first?_add (fixes : FirstFixes) (finding : Finding) (key : String) :
    (fixes.add finding).first? key = (fixes.first? key).or (fixFor? key finding) := by
  unfold add
  split
  · next fix hfix hnone =>
    by_cases hkey : finding.fixKey = key
    · subst hkey
      have hfind : fixes.find? (fun entry => entry.1 == finding.fixKey) = none :=
        Option.map_eq_none_iff.mp hnone
      simp [first?, fixFor?, hfix, hfind]
    · simp [first?, fixFor?, hkey]
  · next hkept =>
    by_cases hkey : finding.fixKey = key
    · subst hkey
      cases hfirst : fixes.first? finding.fixKey with
      | some fix => rfl
      | none =>
        cases hfix : finding.fix? with
        | none => simp [fixFor?, hfix]
        | some fix => exact absurd hfirst (hkept fix hfix)
    · simp [fixFor?, hkey]

/-- The fixes of findings are added behind those that are there. -/
theorem first?_addAll (fixes : FirstFixes) (findings : List Finding) (key : String) :
    (fixes.addAll findings).first? key =
      (fixes.first? key).or (findings.findSome? (fixFor? key)) := by
  induction findings generalizing fixes with
  | nil => simp [addAll]
  | cons finding rest ih =>
    rw [addAll, List.foldl_cons, ← addAll, ih, first?_add, List.findSome?_cons, Option.or_assoc]
    cases fixFor? key finding <;> simp

end FirstFixes

/-- All findings of passes, in the order in which they were made. -/
def Pass.allFindings (passes : List Pass) : List Finding := passes.flatMap Pass.findings

/-- After passes, the fix that is kept under a key is the first one that any of them has
reported. -/
theorem Progress.first?_recordAll (progress : Progress) (passes : List Pass) (key : String) :
    (progress.recordAll passes).fixes.first? key = (progress.fixes.first? key).or
      ((Pass.allFindings passes).findSome? (FirstFixes.fixFor? key)) := by
  induction passes generalizing progress with
  | nil => simp [recordAll, Pass.allFindings]
  | cons pass rest ih =>
    have hrest : (progress.recordAll (pass :: rest)) =
      (progress.record pass.findings).recordAll rest := rfl
    have hfindings : Pass.allFindings (pass :: rest) =
      pass.findings ++ Pass.allFindings rest := rfl
    rw [hrest, ih, hfindings, List.findSome?_append, ← Option.or_assoc]
    congr 1
    exact FirstFixes.first?_addAll progress.fixes pass.findings key

/-- The first fix that findings report for a rule and a resource. -/
def firstFix? (findings : List Finding) (rule resource : String) : Option Fix :=
  findings.findSome? fun finding =>
    if finding.rule = rule ∧ finding.resource = resource then finding.fix? else none

/-- Among findings of rules, the first fix under the key of one of them is the first one for
its rule and resource. -/
theorem findSome?_fixFor?_eq {findings : List Finding} {finding : Finding}
    (hall : ∀ other ∈ findings, other.OfRule) (h : finding.OfRule) :
    findings.findSome? (FirstFixes.fixFor? finding.fixKey) =
      firstFix? findings finding.rule finding.resource := by
  unfold firstFix?
  induction findings with
  | nil => rfl
  | cons other rest ih =>
    obtain ⟨hother, hrest⟩ := List.forall_mem_cons.mp hall
    rw [List.findSome?_cons, List.findSome?_cons, ih hrest]
    simp only [FirstFixes.fixFor?, hother.fixKey_eq_iff h]

/-- A finding with the first fix that findings report for its rule and resource, or with none
if they report none. -/
def Finding.withFirstFix (findings : List Finding) (finding : Finding) : Finding :=
  { finding with fix? := firstFix? findings finding.rule finding.resource }

/-! ### Reports -/

section

variable {base : RepoPath} {configFile : String} {fix : Bool}

/-- All findings of passes are of rules. -/
theorem ofRule_of_passes {workspace left : Workspace} {passes : List Pass}
    (h : Passes base configFile fix workspace passes left) :
    ∀ finding ∈ Pass.allFindings passes, finding.OfRule := by
  induction passes generalizing workspace with
  | nil => simp [Pass.allFindings]
  | cons pass rest ih =>
    obtain ⟨-, hlint, hrest⟩ := h
    exact List.forall_mem_append.mpr ⟨ofRule_of_lint hlint, ih hrest⟩

variable {passes : List Pass} {finding : Finding}

/-- After passes, the fix that is kept for one of their findings is the first one for its rule
and resource. -/
theorem first?_recordAll_of_mem (hall : ∀ other ∈ Pass.allFindings passes, other.OfRule)
    (h : finding ∈ Pass.allFindings passes) :
    (({} : Progress).recordAll passes).fixes.first? finding.fixKey =
      firstFix? (Pass.allFindings passes) finding.rule finding.resource := by
  rw [Progress.first?_recordAll, findSome?_fixFor?_eq hall (hall finding h)]
  rfl

/-- After passes, one of their findings is shown with the first fix for its rule and
resource. -/
theorem restore_recordAll_of_mem (hall : ∀ other ∈ Pass.allFindings passes, other.OfRule)
    (h : finding ∈ Pass.allFindings passes) :
    (({} : Progress).recordAll passes).fixes.restore finding =
      finding.withFirstFix (Pass.allFindings passes) := by
  unfold FirstFixes.restore Finding.withFirstFix
  rw [first?_recordAll_of_mem hall h]
  cases hfix : firstFix? (Pass.allFindings passes) finding.rule finding.resource with
  | some fix => rfl
  | none =>
    -- The finding itself would have been the first one with a fix.
    have hnone : finding.fix? = none := by
      simpa using List.findSome?_eq_none_iff.mp hfix finding h
    change finding = { finding with fix? := none }
    rw [← hnone]

/-- The findings of the last pass are among those of all passes. -/
theorem mem_allFindings_of_mem_last {earlier : List Pass} {last : Pass}
    (h : finding ∈ last.findings) : finding ∈ Pass.allFindings (earlier ++ [last]) := by
  simp [Pass.allFindings, h]

/-- What is known after passes are the findings of the last one. -/
theorem Progress.findings_recordAll (progress : Progress) (earlier : List Pass) (last : Pass) :
    (progress.recordAll (earlier ++ [last])).findings = last.findings := by
  simp [recordAll, record]

/-- The report after passes shows the findings of the last one, each with the first fix for its
rule and resource. -/
theorem report_findings_recordAll {earlier : List Pass} {last : Pass}
    (hall : ∀ other ∈ Pass.allFindings (earlier ++ [last]), other.OfRule) :
    (({} : Progress).recordAll (earlier ++ [last])).report.findings =
      last.findings.map (Finding.withFirstFix (Pass.allFindings (earlier ++ [last]))) := by
  change List.map _ (({} : Progress).recordAll (earlier ++ [last])).findings = _
  rw [Progress.findings_recordAll]
  exact List.map_congr_left fun finding hfinding =>
    restore_recordAll_of_mem hall (mem_allFindings_of_mem_last hfinding)

/-- The report counts the findings that it shows as fixed. -/
theorem report_fixed_recordAll {earlier : List Pass} {last : Pass}
    (hall : ∀ other ∈ Pass.allFindings (earlier ++ [last]), other.OfRule) :
    (({} : Progress).recordAll (earlier ++ [last])).report.fixed =
      (({} : Progress).recordAll (earlier ++ [last])).report.findings.countP Finding.isFixed := by
  rw [report_findings_recordAll hall, List.countP_map]
  change List.countP _ (({} : Progress).recordAll (earlier ++ [last])).findings = _
  rw [Progress.findings_recordAll]
  refine List.countP_congr fun finding hfinding => ?_
  rw [first?_recordAll_of_mem hall (mem_allFindings_of_mem_last hfinding)]
  rfl

/-- The bookkeeping of a run with a report. The report counts the passes, of which there are at
most ten, and only one if nothing is to be fixed. Every pass but the last one leaves a problem;
the last one leaves none, unless no more passes are allowed. The findings of the report are
those of the last pass, in their order, each with the first fix that any pass has reported for
its rule and resource, and with none if no pass has reported one. As many of them are counted as
fixed as have a fix that was made. -/
theorem runPasses_bookkeeping {workspace left : Workspace} {report : LintReport}
    (h : runPasses workspace base configFile fix = (.ok report, left)) :
    ∃ earlier last, Passes base configFile fix workspace (earlier ++ [last]) left ∧
      report.passes = earlier.length + 1 ∧
      1 ≤ report.passes ∧ report.passes ≤ 10 ∧ (fix = false → report.passes = 1) ∧
      (∀ pass ∈ earlier, ∃ finding ∈ pass.findings, finding.valid = false) ∧
      ((∀ finding ∈ last.findings, finding.valid = true) ∨
        report.passes = if fix then 10 else 1) ∧
      report.findings = last.findings.map (fun finding =>
        { finding with
          fix? := firstFix? (Pass.allFindings (earlier ++ [last])) finding.rule
            finding.resource }) ∧
      report.fixed = report.findings.countP Finding.isFixed := by
  obtain ⟨earlier, last, hpasses, hreport, hproblems, hlast⟩ := runPasses_eq_ok h
  have hall := ofRule_of_passes hpasses
  have hcount : report.passes = earlier.length + 1 := by
    rw [hreport, passes_of_recordAll]
    simp
  have hle := passes_le_of_runPasses h
  refine ⟨earlier, last, hpasses, hcount, by omega, ?_, ?_, ?_, ?_, ?_, ?_⟩
  · have hlimit : furtherPasses fix ≤ 9 := by cases fix <;> decide
    omega
  · rintro rfl
    have hlimit : furtherPasses false = 0 := rfl
    omega
  · intro pass hpass
    simpa [Pass.IsClean] using hproblems pass hpass
  · rcases hlast with hclean | hlimit
    · exact Or.inl hclean
    · right
      rw [hcount, hlimit]
      cases fix <;> rfl
  · rw [hreport]
    exact report_findings_recordAll hall
  · rw [hreport]
    exact report_fixed_recordAll hall

end

/-- A repository with one module, whose manifest can be put in order, while a file that it has to
have is missing. -/
def unfinishedModule : Workspace where
  root := .folder [
    ("a", .folder [("p", .file (.text "\x7b\x7d"))]),
    ("config", .file (.text ("\x7b\"extends\": [], \"module-markers\": [\"p\"], \"rules\": " ++
      "\x7b\"packagejson-same-name\": \x7b\"package-json-file\": \"p\"\x7d, " ++
      "\"module-required-files\": true\x7d\x7d")))]
  current := []

/-- The missing file is reported in each of ten passes, and the report on the last one still
tells of the fix that the first one made. -/
theorem runPasses_bookkeeping_unfinishedModule : ∃ report left earlier last,
    runPasses unfinishedModule ⟨"."⟩ "config" true = (.ok report, left) ∧
      Passes ⟨"."⟩ "config" true unfinishedModule (earlier ++ [last]) left ∧
      earlier.length = 9 ∧ (∀ pass ∈ earlier, ∃ finding ∈ pass.findings, finding.valid = false) ∧
      report.findings = last.findings.map
        (Finding.withFirstFix (Pass.allFindings (earlier ++ [last]))) ∧
      report.findings.countP Finding.isFixed = 1 := by
  have hrun : (match runPasses unfinishedModule ⟨"."⟩ "config" true with
    | (.ok report, _) => report.passes == 10 && report.fixed == 1
    | (.error _, _) => false) = true := by decide +kernel
  split at hrun
  · next report left hreport =>
    simp only [Bool.and_eq_true, beq_iff_eq] at hrun
    obtain ⟨earlier, last, hpasses, hcount, -, -, -, hproblems, -, hfindings, hfixed⟩ :=
      runPasses_bookkeeping hreport
    exact ⟨report, left, earlier, last, hreport, hpasses, by omega, hproblems, hfindings,
      hfixed.symm.trans hrun.2⟩
  · cases hrun

end Conventions
