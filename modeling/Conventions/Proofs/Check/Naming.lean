import Conventions.Check.Naming
import Conventions.Proofs.Workspace.Writing

/-!
# Putting names in order

What a check of the name in one file can do, and what checks of several files leave behind
when they run one after the other: files that were not fixed read as before, and a file
whose check found nothing wrong is in order unless a later fix wrote the same file.
-/

namespace Conventions

/-- A file of a module that is checked for the name in it. -/
structure NamedFile where
  check : NameCheck
  module : RepoModule
  path : RepoPath

namespace NamedFile

variable (file : NamedFile) (workspace : Workspace)

/-- Checks the file. -/
def run (fix : Bool) (workspace : Workspace) (file : NamedFile) : Findings :=
  file.check.checkFile fix workspace file.module file.path

/-- What the file means for its module. -/
def verdict : Verdict := file.check.verdict workspace file.module file.path

/-- The file has the right name, if it is there. -/
def InOrder : Prop := workspace.isFile file.path = true → file.verdict workspace = .inOrder

/-- A finding is about the file and its rule. -/
def IsAbout (finding : Finding) : Prop :=
  finding.resource = file.path.text ∧ finding.rule = file.check.rule.name

/-- What a check of a file can come to when problems are fixed. -/
inductive Fixing (file : NamedFile) (before : Workspace) : List Finding → Workspace → Prop
  /-- There is nothing to check. -/
  | absent (hfile : before.isFile file.path = false) : Fixing file before [] before
  /-- The name is right. -/
  | inOrder (finding : Finding) (hverdict : file.verdict before = .inOrder)
      (habout : file.IsAbout finding) (hvalid : finding.valid = true)
      (hfixed : finding.isFixed = false) : Fixing file before [finding] before
  /-- The name was set. -/
  | fixed (finding : Finding) (text : String) (after : Workspace)
      (hfile : before.isFile file.path = true)
      (hverdict : file.verdict before = .mendable text)
      (hwrite : before.write file.path text = .ok after) (habout : file.IsAbout finding)
      (hvalid : finding.valid = true) (hfixed : finding.isFixed = true) :
      Fixing file before [finding] after
  /-- The name is not right, and it was not set. -/
  | refused (finding : Finding) (hverdict : file.verdict before ≠ .inOrder)
      (habout : file.IsAbout finding) (hvalid : finding.valid = false)
      (hfixed : finding.isFixed = false) : Fixing file before [finding] before

/-- A check that fixes problems comes to one of these outcomes. -/
theorem run_fixing :
    Fixing file workspace (run true workspace file).1 (run true workspace file).2 := by
  unfold run NameCheck.checkFile
  by_cases hfile : workspace.isFile file.path = true
  · rw [hfile]
    cases hverdict : file.check.verdict workspace file.module file.path with
    | unreadable reason =>
      exact .refused _ (by simp [verdict, hverdict]) ⟨rfl, rfl⟩ rfl rfl
    | inOrder => exact .inOrder _ hverdict ⟨rfl, rfl⟩ rfl rfl
    | mendable text =>
      unfold writeFix
      cases hwrite : workspace.write file.path text with
      | error problem =>
        simp only [hwrite]
        exact .refused _ (by simp [verdict, hverdict]) ⟨rfl, rfl⟩ rfl rfl
      | ok after =>
        simp only [hwrite]
        exact .fixed _ text after hfile hverdict hwrite ⟨rfl, rfl⟩ rfl rfl
    | unmendable reason =>
      exact .refused _ (by simp [verdict, hverdict]) ⟨rfl, rfl⟩ rfl rfl
  · have habsent : workspace.isFile file.path = false := by simpa using hfile
    rw [habsent]
    exact .absent habsent

/-- A check that fixes nothing writes nothing, and finds no problem exactly if the file is
in order. -/
theorem run_without_fix : (run false workspace file).2 = workspace ∧
    ((∀ finding ∈ (run false workspace file).1, finding.valid = true) ↔
      file.InOrder workspace) := by
  unfold run NameCheck.checkFile InOrder
  by_cases hfile : workspace.isFile file.path = true
  · rw [hfile]
    unfold verdict
    cases hverdict : file.check.verdict workspace file.module file.path with
    | unreadable reason => simp [NameCheck.finding, Finding.of, Finding.about]
    | inOrder => simp [NameCheck.finding, Finding.of, Finding.about]
    | mendable text =>
      simp [NameCheck.misnamed, NameCheck.finding, Finding.of, Finding.about, Finding.withFix]
    | unmendable reason =>
      simp [NameCheck.misnamed, NameCheck.finding, Finding.of, Finding.about, Finding.withFix]
  · simp [hfile]

variable {file workspace}

/-- A file that reads the same means the same. -/
theorem verdict_congr {after : Workspace} (h : after.read file.path = workspace.read file.path) :
    file.verdict after = file.verdict workspace := by
  unfold verdict NameCheck.verdict
  rw [h]

/-- A file that reads the same in the same folders stays in order. -/
theorem inOrder_congr {after : Workspace} (houtline : workspace.SameOutline after)
    (hread : after.read file.path = workspace.read file.path) :
    file.InOrder after ↔ file.InOrder workspace := by
  unfold InOrder
  rw [houtline.isFile, verdict_congr hread]

end NamedFile

/-! ### What fixes leave alone -/

/-- One of the findings says that the file under a path was fixed. -/
def FixedAt (findings : List Finding) (workspace : Workspace) (path : RepoPath) : Prop :=
  ∃ finding ∈ findings, finding.isFixed = true ∧ workspace.SamePlace ⟨finding.resource⟩ path

/-- A file that is fixed according to some findings is fixed according to more of them. -/
theorem FixedAt.mono {findings more : List Finding} {workspace : Workspace} {path : RepoPath}
    (h : FixedAt findings workspace path) (hsub : ∀ finding ∈ findings, finding ∈ more) :
    FixedAt more workspace path := by
  obtain ⟨finding, hfinding, hfixed, hsame⟩ := h
  exact ⟨finding, hsub finding hfinding, hfixed, hsame⟩

/-- From one workspace to another, files have changed only as the findings say. -/
structure ChangedBy (findings : List Finding) (before after : Workspace) : Prop where
  outline : before.SameOutline after
  read_eq : ∀ path, ¬ FixedAt findings before path → after.read path = before.read path

/-- Where nothing changes, nothing has to be said. -/
theorem ChangedBy.refl (findings : List Finding) (workspace : Workspace) :
    ChangedBy findings workspace workspace := ⟨rfl, fun _ _ => rfl⟩

/-- Which files are fixed does not depend on contents. -/
theorem fixedAt_iff_of_sameOutline {findings : List Finding} {workspace other : Workspace}
    (h : workspace.SameOutline other) (path : RepoPath) :
    FixedAt findings workspace path ↔ FixedAt findings other path := by
  simp only [FixedAt, h.samePlace_iff]

/-- More findings say no less. -/
theorem ChangedBy.mono {findings more : List Finding} {before after : Workspace}
    (h : ChangedBy findings before after) (hsub : ∀ finding ∈ findings, finding ∈ more) :
    ChangedBy more before after :=
  ⟨h.outline, fun path hpath => h.read_eq path fun hfixed => hpath (hfixed.mono hsub)⟩

/-- Changes one after the other are what the findings about both say. -/
theorem ChangedBy.trans {found more : List Finding} {first second third : Workspace}
    (h : ChangedBy found first second) (h' : ChangedBy more second third) :
    ChangedBy (found ++ more) first third where
  outline := h.outline.trans h'.outline
  read_eq path hpath := by
    have hfound : ¬ FixedAt found first path := fun hfixed =>
      hpath (hfixed.mono fun finding hfinding => List.mem_append_left _ hfinding)
    have hmore : ¬ FixedAt more second path := fun hfixed => by
      rw [← fixedAt_iff_of_sameOutline h.outline] at hfixed
      exact hpath (hfixed.mono fun finding hfinding => List.mem_append_right _ hfinding)
    rw [h'.read_eq path hmore, h.read_eq path hfound]

/-- A check changes its file only if it says so. -/
theorem NamedFile.Fixing.changedBy {file : NamedFile} {before after : Workspace}
    {findings : List Finding} (h : file.Fixing before findings after) :
    ChangedBy findings before after := by
  cases h with
  | absent => exact .refl _ _
  | inOrder => exact .refl _ _
  | refused => exact .refl _ _
  | fixed finding text after hfile hverdict hwrite habout hvalid hfixed =>
    refine ⟨Workspace.sameOutline_of_write hfile hwrite, fun path hpath => ?_⟩
    refine Workspace.read_of_write_of_not_samePlace hfile hwrite fun hsame => hpath ?_
    exact ⟨finding, by simp, hfixed, by rw [habout.1]; exact hsame⟩

/-- What a check finds is about its file. -/
theorem NamedFile.Fixing.isAbout {file : NamedFile} {before after : Workspace}
    {findings : List Finding} (h : file.Fixing before findings after) {finding : Finding}
    (hfinding : finding ∈ findings) : file.IsAbout finding := by
  cases h with
  | absent => cases hfinding
  | inOrder only _ habout => rwa [List.mem_singleton.mp hfinding]
  | fixed only _ _ _ _ _ habout => rwa [List.mem_singleton.mp hfinding]
  | refused only _ habout => rwa [List.mem_singleton.mp hfinding]

/-- What a check finds is about its file, whether problems are to be fixed or not. -/
theorem NamedFile.isAbout_of_mem_run {file : NamedFile} {workspace : Workspace} {fix : Bool}
    {finding : Finding} (h : finding ∈ (run fix workspace file).1) : file.IsAbout finding := by
  cases fix with
  | true => exact (file.run_fixing workspace).isAbout h
  | false =>
    unfold run NameCheck.checkFile at h
    split at h
    · cases h
    · split at h
      all_goals
        obtain rfl := List.mem_singleton.mp h
        exact ⟨rfl, rfl⟩

/-- A check that leaves no problem leaves its file in order, or has fixed it. -/
theorem NamedFile.Fixing.inOrder_or_fixedAt {file : NamedFile} {before after : Workspace}
    {findings : List Finding} (h : file.Fixing before findings after)
    (hvalid : ∀ finding ∈ findings, finding.valid = true) :
    file.InOrder after ∨ FixedAt findings after file.path := by
  cases h with
  | absent habsent =>
    left
    intro hthere
    rw [habsent] at hthere
    cases hthere
  | inOrder finding hverdict => exact Or.inl fun _ => hverdict
  | fixed finding text _ hfile hverdict hwrite habout _ hfixed =>
    right
    have hsame := Workspace.samePlace_of_isFile hfile
    rw [(Workspace.sameOutline_of_write hfile hwrite).samePlace_iff] at hsame
    exact ⟨finding, by simp, hfixed, by rw [habout.1]; exact hsame⟩
  | refused finding _ _ hinvalid =>
    rw [hvalid finding (by simp)] at hinvalid
    cases hinvalid

/-- A fix of the file gives a text that is in order. -/
def NamedFile.Mends (workspace : Workspace) (file : NamedFile) : Prop :=
  ∀ text, file.verdict workspace = .mendable text → file.check.judge file.module text = .inOrder

/-- A check that leaves no problem leaves its file in order if a fix of it gives a text that
is. -/
theorem NamedFile.Fixing.inOrder_of_mends {file : NamedFile} {before after : Workspace}
    {findings : List Finding} (h : file.Fixing before findings after)
    (hvalid : ∀ finding ∈ findings, finding.valid = true) (hmends : file.Mends before) :
    file.InOrder after := by
  cases h with
  | absent habsent =>
    intro hthere
    rw [habsent] at hthere
    cases hthere
  | inOrder finding hverdict => exact fun _ => hverdict
  | fixed finding text _ hfile hverdict hwrite =>
    intro _
    have hread := Workspace.read_of_write_of_samePlace hfile hwrite
      (Workspace.samePlace_of_isFile hfile)
    unfold NamedFile.verdict NameCheck.verdict
    rw [hread]
    exact hmends text hverdict
  | refused finding _ _ hinvalid =>
    rw [hvalid finding (by simp)] at hinvalid
    cases hinvalid

/-! ### Several checks -/

/-- Checks files one after the other. -/
def checkNames (fix : Bool) (workspace : Workspace) (files : List NamedFile) : Findings :=
  checkEach (NamedFile.run fix) workspace files

/-- The first file is checked, and then the others on the workspace that this leaves. -/
theorem checkNames_cons (fix : Bool) (workspace : Workspace) (file : NamedFile)
    (rest : List NamedFile) : checkNames fix workspace (file :: rest) =
      ((NamedFile.run fix workspace file).1 ++
          (checkNames fix (NamedFile.run fix workspace file).2 rest).1,
        (checkNames fix (NamedFile.run fix workspace file).2 rest).2) := rfl

/-- Checks that fix problems change only what they say. -/
theorem checkNames_changedBy (workspace : Workspace) (files : List NamedFile) :
    ChangedBy (checkNames true workspace files).1 workspace
      (checkNames true workspace files).2 := by
  induction files generalizing workspace with
  | nil => exact .refl _ _
  | cons file rest ih =>
    rw [checkNames_cons]
    exact (file.run_fixing workspace).changedBy.trans (ih _)

/-- Every finding is about one of the files. -/
theorem exists_isAbout_of_mem_checkNames {fix : Bool} {workspace : Workspace}
    {files : List NamedFile} {finding : Finding}
    (h : finding ∈ (checkNames fix workspace files).1) : ∃ file ∈ files, file.IsAbout finding := by
  induction files generalizing workspace with
  | nil => cases h
  | cons file rest ih =>
    rw [checkNames_cons] at h
    rcases List.mem_append.mp h with h | h
    · exact ⟨file, by simp, NamedFile.isAbout_of_mem_run h⟩
    · obtain ⟨other, hother, habout⟩ := ih h
      exact ⟨other, List.mem_cons_of_mem _ hother, habout⟩

/-- Checks that fix nothing write nothing, and find no problem exactly if all files are in
order. -/
theorem checkNames_without_fix (workspace : Workspace) (files : List NamedFile) :
    (checkNames false workspace files).2 = workspace ∧
      ((∀ finding ∈ (checkNames false workspace files).1, finding.valid = true) ↔
        ∀ file ∈ files, file.InOrder workspace) := by
  induction files with
  | nil => simp [checkNames, checkEach]
  | cons file rest ih =>
    obtain ⟨hsame, hvalid⟩ := file.run_without_fix workspace
    rw [checkNames_cons, hsame]
    refine ⟨ih.1, ?_⟩
    simp only [List.forall_mem_append, List.forall_mem_cons, hvalid, ih.2]

/-- Where checks leave no problem, each file is in order or was fixed by one of them. -/
theorem inOrder_or_fixedAt_of_checkNames {workspace : Workspace} {files : List NamedFile}
    (h : ∀ finding ∈ (checkNames true workspace files).1, finding.valid = true) :
    ∀ file ∈ files, file.InOrder (checkNames true workspace files).2 ∨
      FixedAt (checkNames true workspace files).1 (checkNames true workspace files).2
        file.path := by
  induction files generalizing workspace with
  | nil => simp
  | cons first rest ih =>
    rw [checkNames_cons] at h ⊢
    obtain ⟨hfirst, hrest⟩ := List.forall_mem_append.mp h
    have hfixing := first.run_fixing workspace
    have hchanged := checkNames_changedBy (NamedFile.run true workspace first).2 rest
    intro file hfile
    rcases List.mem_cons.mp hfile with rfl | hfile
    · -- The first file stays as its check leaves it, unless a later check fixes it.
      rcases hfixing.inOrder_or_fixedAt hfirst with hinOrder | hfixed
      · by_cases hlater : FixedAt (checkNames true (NamedFile.run true workspace file).2 rest).1
            (NamedFile.run true workspace file).2 file.path
        · right
          rw [fixedAt_iff_of_sameOutline hchanged.outline] at hlater
          exact hlater.mono fun other hother => List.mem_append_right _ hother
        · left
          rwa [NamedFile.inOrder_congr hchanged.outline (hchanged.read_eq _ hlater)]
      · right
        rw [fixedAt_iff_of_sameOutline hchanged.outline] at hfixed
        exact hfixed.mono fun other hother => List.mem_append_left _ hother
    · rcases ih hrest file hfile with hinOrder | hfixed
      · exact Or.inl hinOrder
      · exact Or.inr (hfixed.mono fun other hother => List.mem_append_right _ hother)

/-- No two of the files are at the same place. -/
def Separate (workspace : Workspace) (files : List NamedFile) : Prop :=
  files.Pairwise fun a b => ¬ workspace.SamePlace a.path b.path

/-- Files that are separate stay so as long as nothing is moved. -/
theorem Separate.of_sameOutline {workspace other : Workspace} {files : List NamedFile}
    (h : Separate workspace files) (houtline : workspace.SameOutline other) :
    Separate other files :=
  List.Pairwise.imp (fun hplaces hsame => hplaces ((houtline.samePlace_iff _ _).mpr hsame)) h

/-- A check does not touch the files of checks that are separate from it. -/
theorem NamedFile.Fixing.read_eq_of_separate {file : NamedFile} {before after : Workspace}
    {findings : List Finding} (h : file.Fixing before findings after) {path : RepoPath}
    (hpath : ¬ before.SamePlace file.path path) : after.read path = before.read path := by
  apply h.changedBy.read_eq
  rintro ⟨finding, hfinding, -, hsame⟩
  rw [(h.isAbout hfinding).1] at hsame
  exact hpath hsame

/-- Checks do not touch a file that is separate from theirs. -/
theorem read_eq_of_checkNames {workspace : Workspace} {files : List NamedFile} {path : RepoPath}
    (h : ∀ file ∈ files, ¬ workspace.SamePlace path file.path) :
    (checkNames true workspace files).2.read path = workspace.read path := by
  apply (checkNames_changedBy workspace files).read_eq
  rintro ⟨finding, hfinding, -, hsame⟩
  obtain ⟨file, hfile, hresource, -⟩ := exists_isAbout_of_mem_checkNames hfinding
  rw [hresource] at hsame
  exact h file hfile hsame.symm

/-- Where checks of separate files leave no problem and fixes give texts in order, all
files are in order. -/
theorem inOrder_of_separate {workspace : Workspace} {files : List NamedFile}
    (h : ∀ finding ∈ (checkNames true workspace files).1, finding.valid = true)
    (hseparate : Separate workspace files) (hmends : ∀ file ∈ files, file.Mends workspace) :
    ∀ file ∈ files, file.InOrder (checkNames true workspace files).2 := by
  induction files generalizing workspace with
  | nil => simp
  | cons first rest ih =>
    rw [checkNames_cons] at h ⊢
    obtain ⟨hfirst, hrest⟩ := List.forall_mem_append.mp h
    obtain ⟨hothers, hseparate⟩ := List.pairwise_cons.mp hseparate
    have hfixing := first.run_fixing workspace
    have houtline := hfixing.changedBy.outline
    intro file hfile
    rcases List.mem_cons.mp hfile with rfl | hfile
    · have hkept := read_eq_of_checkNames fun other hother hsame =>
        hothers other hother ((houtline.samePlace_iff _ _).mpr hsame)
      rw [NamedFile.inOrder_congr (checkNames_changedBy _ rest).outline hkept]
      exact hfixing.inOrder_of_mends hfirst (hmends file (by simp))
    · refine ih hrest (Separate.of_sameOutline hseparate houtline) ?_ file hfile
      intro other hother text hverdict
      rw [NamedFile.verdict_congr (hfixing.read_eq_of_separate (hothers other hother))] at hverdict
      exact hmends other (List.mem_cons_of_mem _ hother) text hverdict

end Conventions
