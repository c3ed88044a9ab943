import Conventions.Proofs.Lint.Failures
import Conventions.Proofs.Lint.Readers

/-!
# What a pass without fixes announces

A pass that fixes nothing says which problems could be fixed. Where no two name checks look at
one file, it says so of the files that are then fixed, but also of those that are documents
without attributes, for which a fix turns out to be impossible.
-/

namespace Conventions

variable {workspace left : Workspace} {state : FixState} {rule resource : String}

/-! ### Documents without attributes -/

/-- The text is a document, in the format that a rule reads, that can have no attributes. -/
def LacksAttributes (rule text : String) : Prop :=
  (rule = Rule.packageName.name ∧
    ∃ manifest, Json.parse text = .ok manifest ∧ manifest.asObject? = none) ∨
  (rule = Rule.serviceName.name ∧
    ∃ description, Yaml.parse text = .ok description ∧
      ∀ entries, description.untagged ≠ .mapping entries)

/-- A field can be put into a mapping only. -/
theorem Yaml.withField?_eq_none_iff {name : String} {field value : Yaml} :
    Yaml.withField? name field value = none ↔ ∀ entries, value.untagged ≠ .mapping entries := by
  fun_induction Yaml.withField? name field value with
  | case1 entries => simp [Yaml.untagged]
  | case2 tag value ih => simpa [Yaml.untagged] using ih
  | case3 value hmapping htagged =>
    cases value with
    | mapping entries => exact absurd rfl (hmapping entries)
    | tagged tag value => exact absurd rfl (htagged tag value)
    | _ => simp [Yaml.untagged]

/-- A check can mend texts that are documents with attributes, and refuses to mend others because
they are documents without. -/
def NameCheck.MendsAttributes (check : NameCheck) : Prop :=
  ∀ module text,
    (∀ mended, check.judge module text = .mendable mended →
      ¬ LacksAttributes check.rule.name text) ∧
    ∀ reason, check.judge module text = .unmendable reason → LacksAttributes check.rule.name text

/-- Manifests have attributes if they are objects. -/
theorem PackageName.mendsAttributes : nameCheck.MendsAttributes := by
  intro module text
  change (∀ mended, judge module text = .mendable mended → ¬ LacksAttributes _ text) ∧
    ∀ reason, judge module text = .unmendable reason → LacksAttributes _ text
  have hname : Rule.packageName.name ≠ Rule.serviceName.name := by decide
  unfold judge
  cases hmanifest : Json.parse text with
  | error fault => simp
  | ok manifest =>
    have hlacks : LacksAttributes Rule.packageName.name text ↔ manifest.asObject? = none := by
      simp [LacksAttributes, hmanifest, hname]
    simp only [hlacks, nameCheck, named?]
    cases manifest.asObject? <;> grind

/-- Descriptions have attributes if they are mappings. -/
theorem ServiceName.mendsAttributes : nameCheck.MendsAttributes := by
  intro module text
  change (∀ mended, judge module text = .mendable mended → ¬ LacksAttributes _ text) ∧
    ∀ reason, judge module text = .unmendable reason → LacksAttributes _ text
  have hname : Rule.serviceName.name ≠ Rule.packageName.name := by decide
  unfold judge
  cases hdescription : Yaml.parse text with
  | error problem => simp
  | ok description =>
    have hlacks : LacksAttributes Rule.serviceName.name text ↔
        named? module description = none := by
      rw [named?, Yaml.withField?_eq_none_iff]
      simp [LacksAttributes, hdescription, hname]
    simp only [hlacks, nameCheck]
    cases named? module description <;> grind

/-- All files are checked by checks that mend attributes. -/
theorem Scope.mendsAttributes_of_mem_namedFiles {scope : Scope} {file : NamedFile}
    (h : file ∈ scope.namedFiles) : file.check.MendsAttributes := by
  have hfilesOf (check : NameCheck) (modules : List RepoModule)
      (hfile : file ∈ check.filesOf modules) : file.check = check := by
    obtain ⟨module, -, hname⟩ := List.mem_filterMap.mp hfile
    obtain ⟨name, -, rfl⟩ := Option.map_eq_some_iff.mp hname
    rfl
  rcases List.mem_append.mp h with h | h
  · rw [hfilesOf _ _ h]
    exact PackageName.mendsAttributes
  · rw [hfilesOf _ _ h]
    exact ServiceName.mendsAttributes

/-! ### What is said about fixes -/

/-- What is said about the fix of a file that means something to a check. -/
def Verdict.fixState? (fix : Bool) : Verdict → Option FixState
  | .unreadable _ | .inOrder => none
  | .mendable _ => some (if fix then .fixed else .possible)
  | .unmendable _ => some (if fix then .notPossible else .possible)

/-- The findings say of a rule and a resource that their fix is in a state. -/
def Reports (findings : List Finding) (state : FixState) (rule resource : String) : Prop :=
  ∃ finding ∈ findings, finding.rule = rule ∧ finding.resource = resource ∧
    finding.hasFix state = true

instance (findings : List Finding) (state : FixState) (rule resource : String) :
    Decidable (Reports findings state rule resource) :=
  inferInstanceAs (Decidable (∃ finding ∈ findings, _))

/-- The file is the resource and its check is of the rule, it is there, and what it means to the
check leads to a state of its fix. -/
def NamedFile.Leads (workspace : Workspace) (fix : Bool) (state : FixState) (rule resource : String)
    (file : NamedFile) : Prop :=
  file.check.rule.name = rule ∧ file.path.text = resource ∧ workspace.isFile file.path = true ∧
    (file.verdict workspace).fixState? fix = some state

/-- A finding has a fix in a state if this is the state of its fix. -/
theorem Finding.hasFix_iff {finding : Finding} :
    finding.hasFix state = true ↔ finding.fix?.map Fix.state = some state := by
  unfold hasFix
  cases finding.fix? <;> simp

/-- Findings put together say what one of their parts says. -/
theorem reports_append {findings more : List Finding} :
    Reports (findings ++ more) state rule resource ↔
      Reports findings state rule resource ∨ Reports more state rule resource := by
  simp [Reports, or_and_right, exists_or]

namespace NamedFile

/-- A check says one thing about a file that is there, and this tells of the fix what the file
means to the check. -/
theorem run_of_isFile {file : NamedFile} (fix : Bool) (h : workspace.isFile file.path = true) :
    ∃ finding, (run fix workspace file).1 = [finding] ∧ file.IsAbout finding ∧
      finding.fix?.map Fix.state = (file.verdict workspace).fixState? fix := by
  unfold run NameCheck.checkFile verdict
  rw [h]
  cases hverdict : file.check.verdict workspace file.module file.path with
  | unreadable reason => exact ⟨_, rfl, ⟨rfl, rfl⟩, rfl⟩
  | inOrder => exact ⟨_, rfl, ⟨rfl, rfl⟩, rfl⟩
  | mendable text =>
    cases fix with
    | false => exact ⟨_, rfl, ⟨rfl, rfl⟩, rfl⟩
    | true =>
      obtain ⟨_, -, -, hwrite⟩ := Workspace.write_of_isFile h text
      simp only [writeFix, hwrite]
      exact ⟨_, rfl, ⟨rfl, rfl⟩, rfl⟩
  | unmendable reason => cases fix <;> exact ⟨_, rfl, ⟨rfl, rfl⟩, rfl⟩

/-- A check says about its file what the file leads to. -/
theorem reports_run_iff (file : NamedFile) (fix : Bool) :
    Reports (run fix workspace file).1 state rule resource ↔
      file.Leads workspace fix state rule resource := by
  by_cases hfile : workspace.isFile file.path = true
  · obtain ⟨finding, hrun, ⟨hresource, hrule⟩, hfix⟩ := run_of_isFile fix hfile
    simp only [Reports, Leads, hrun, List.mem_singleton, exists_eq_left, hrule, hresource,
      Finding.hasFix_iff, hfix, hfile, true_and]
  · have hrun : (run fix workspace file).1 = [] := by
      simp [run, NameCheck.checkFile, hfile]
    simp [Reports, Leads, hrun, hfile]

/-- A file that leads to a fix being possible leads to its being fixed or not, once fixes are
asked for. -/
theorem leads_possible_iff {file : NamedFile} :
    file.Leads workspace false .possible rule resource ↔
      file.Leads workspace true .fixed rule resource ∨
        file.Leads workspace true .notPossible rule resource := by
  unfold Leads
  cases file.verdict workspace <;> simp [Verdict.fixState?]

/-- The text of a file tells what the file means. -/
theorem verdict_of_read {file : NamedFile} {text : String}
    (h : workspace.read file.path = .ok text) :
    file.verdict workspace = file.check.judge file.module text := by
  unfold verdict NameCheck.verdict
  rw [h]

/-- It leads to its being fixed unless it is a document without attributes. -/
theorem leads_fixed_iff {file : NamedFile} (hcheck : file.check.MendsAttributes) :
    file.Leads workspace true .fixed rule resource ↔
      file.Leads workspace false .possible rule resource ∧
        ¬ ∃ text, workspace.read ⟨resource⟩ = .ok text ∧ LacksAttributes rule text := by
  constructor
  · rintro ⟨rfl, rfl, hfile, hstate⟩
    refine ⟨leads_possible_iff.mpr (Or.inl ⟨rfl, rfl, hfile, hstate⟩), ?_⟩
    -- Only a text that can be mended leads to a fix, and such a text has attributes.
    rintro ⟨text, hread, hlacks⟩
    have hjudge := verdict_of_read hread
    rw [hjudge] at hstate
    cases hverdict : file.check.judge file.module text with
    | mendable mended => exact (hcheck file.module text).1 mended hverdict hlacks
    | _ =>
      rw [hverdict] at hstate
      cases hstate
  · rintro ⟨hleads, hlacks⟩
    obtain hfixed | ⟨rfl, rfl, hfile, hstate⟩ := leads_possible_iff.mp hleads
    · exact hfixed
    · refine absurd ?_ hlacks
      cases hread : workspace.read file.path with
      | error problem => simp [verdict, NameCheck.verdict, hread, Verdict.fixState?] at hstate
      | ok text =>
        refine ⟨text, rfl, ?_⟩
        rw [verdict_of_read hread] at hstate
        cases hverdict : file.check.judge file.module text with
        | unmendable reason => exact (hcheck file.module text).2 reason hverdict
        | _ =>
          rw [hverdict] at hstate
          cases hstate

/-- A check moves nothing, and leaves what is not at the place of its file. -/
theorem run_keeps (file : NamedFile) (workspace : Workspace) (fix : Bool) :
    workspace.SameOutline (run fix workspace file).2 ∧
      ∀ path, ¬ workspace.SamePlace file.path path →
        (run fix workspace file).2.read path = workspace.read path := by
  cases fix with
  | false =>
    rw [(run_without_fix file workspace).1]
    exact ⟨rfl, fun _ _ => rfl⟩
  | true =>
    have hfixing := file.run_fixing workspace
    exact ⟨hfixing.changedBy.outline, fun path => hfixing.read_eq_of_separate⟩

end NamedFile

/-- Where files are separate, checks of them say of each what it leads to at first. -/
theorem reports_checkNames_iff (fix : Bool) {files : List NamedFile}
    (hseparate : Separate workspace files) :
    Reports (checkNames fix workspace files).1 state rule resource ↔
      ∃ file ∈ files, file.Leads workspace fix state rule resource := by
  induction files generalizing workspace with
  | nil => simp [checkNames, checkEach, Reports]
  | cons first rest ih =>
    obtain ⟨hothers, hrest⟩ := List.pairwise_cons.mp hseparate
    obtain ⟨houtline, hread⟩ := first.run_keeps workspace fix
    -- The first check leaves the other files as they are, so that they lead to the same.
    have hkept : ∀ file ∈ rest, (file.Leads (NamedFile.run fix workspace first).2 fix state rule
        resource ↔ file.Leads workspace fix state rule resource) := by
      intro file hfile
      unfold NamedFile.Leads
      rw [houtline.isFile, NamedFile.verdict_congr (hread _ (hothers file hfile))]
    rw [checkNames_cons, reports_append, first.reports_run_iff,
      ih (Separate.of_sameOutline hrest houtline), List.exists_mem_cons_iff]
    exact or_congr_right (exists_congr fun file => and_congr_right (hkept file))

/-! ### Passes -/

/-- Sorting findings does not change what they say. -/
theorem reports_sortBy (le : Finding → Finding → Bool) {findings : List Finding} :
    Reports (sortBy le findings) state rule resource ↔ Reports findings state rule resource := by
  simp [Reports]

section

variable {base : RepoPath} {configFile : String}

/-- Where files are separate, a pass says of each what it leads to. -/
theorem reports_lint_iff {fix : Bool} {scope : Scope} {findings : List Finding}
    (hload : Scope.load workspace base configFile fix = .ok scope)
    (hseparate : Separate workspace scope.namedFiles)
    (h : lint workspace base configFile fix = (.ok findings, left)) :
    Reports findings state rule resource ↔
      ∃ file ∈ scope.namedFiles, file.Leads workspace fix state rule resource := by
  obtain ⟨seen, more, hseen, rfl, hmore, rfl⟩ := lint_eq_ok_iff.mp h
  cases hload.symm.trans hseen
  have hplain := fix?_eq_none_of_runRules (fun _ h => h) hmore
  have hsilent : ¬ Reports more state rule resource := by
    rintro ⟨finding, hfinding, -, -, hfix⟩
    rw [Finding.hasFix_iff, hplain finding hfinding] at hfix
    cases hfix
  rw [reports_sortBy, reports_append, or_iff_left hsilent, reports_checkNames_iff fix hseparate]

/-- What the rules see is loaded in the same way whether problems are to be fixed or not. -/
theorem Scope.load_eq_map_load (fix other : Bool) : load workspace base configFile fix =
    (load workspace base configFile other).map fun scope => { scope with fix } := by
  unfold load
  split
  · cases Resolution.resolve workspace base base configFile with
    | error failure => rfl
    | ok resolution =>
      change (RepoModule.discover _ _ _ _ >>= _) = (RepoModule.discover _ _ _ _ >>= _).map _
      cases RepoModule.discover workspace base resolution.config configFile <;> rfl
  · rfl

/-- A pass that fixes nothing leaves the workspace as it is. -/
theorem lint_false_snd : (lint workspace base configFile false).2 = workspace := by
  rcases lint_snd_cases workspace base configFile false with hsame | ⟨scope, -, hchecked⟩
  · exact hsame
  · rw [hchecked]
    exact (checkNames_without_fix workspace scope.namedFiles).1

/-- A pass that fails does so for the same reason if problems are to be fixed or not. -/
theorem lint_fst_eq_error {fix : Bool} {failure : Failure}
    (h : (lint workspace base configFile fix).1 = .error failure) (other : Bool) :
    (lint workspace base configFile other).1 = .error failure := by
  have hother : Scope.load workspace base configFile other =
      (Scope.load workspace base configFile fix).map _ := Scope.load_eq_map_load other fix
  cases hload : Scope.load workspace base configFile fix with
  | error reason =>
    rw [lint_of_load_eq_error hload] at h
    cases h
    rw [hload] at hother
    rw [lint_of_load_eq_error hother]
  | ok scope =>
    rw [lint_fst_eq_error_iff_of_load hload] at h
    rw [hload] at hother
    exact (lint_fst_eq_error_iff_of_load hother).mpr h

/-- Where no two name checks look at one file, a pass fails both with fixes and without them, or
gives findings both times. What is then said to be possible to fix without fixes is fixed with
them, unless it is a document without attributes. -/
theorem lint_dryRun
    (hseparate : ∀ scope, Scope.load workspace base configFile false = .ok scope →
      Separate workspace scope.namedFiles) :
    (∃ failure, (lint workspace base configFile false).1 = .error failure ∧
      (lint workspace base configFile true).1 = .error failure) ∨
    ∃ announced done, (lint workspace base configFile false).1 = .ok announced ∧
      (lint workspace base configFile true).1 = .ok done ∧ ∀ rule resource,
        (Reports announced .possible rule resource ↔
          Reports done .fixed rule resource ∨ Reports done .notPossible rule resource) ∧
        (Reports done .fixed rule resource ↔ Reports announced .possible rule resource ∧
          ¬ ∃ text, workspace.read ⟨resource⟩ = .ok text ∧ LacksAttributes rule text) := by
  rcases hannounced : lint workspace base configFile false with ⟨failure | announced, left⟩
  · have hfails := lint_fst_eq_error (congrArg Prod.fst hannounced) true
    exact Or.inl ⟨failure, rfl, hfails⟩
  rcases hdone : lint workspace base configFile true with ⟨failure | done, left'⟩
  · have hfails := lint_fst_eq_error (congrArg Prod.fst hdone) false
    rw [hannounced] at hfails
    cases hfails
  refine Or.inr ⟨announced, done, rfl, rfl, fun rule resource => ?_⟩
  obtain ⟨scope, -, hload, -⟩ := lint_eq_ok_iff.mp hannounced
  have hload' : Scope.load workspace base configFile true = .ok { scope with fix := true } :=
    (Scope.load_withFix hload true).1
  have hnamed : Scope.namedFiles { scope with fix := true } = scope.namedFiles := rfl
  simp only [reports_lint_iff hload (hseparate scope hload) hannounced,
    reports_lint_iff hload' (hseparate scope hload) hdone, hnamed]
  constructor
  · simp only [NamedFile.leads_possible_iff, and_or_left, exists_or]
  · constructor
    · rintro ⟨file, hfile, hleads⟩
      rw [NamedFile.leads_fixed_iff (Scope.mendsAttributes_of_mem_namedFiles hfile)] at hleads
      exact ⟨⟨file, hfile, hleads.1⟩, hleads.2⟩
    · rintro ⟨⟨file, hfile, hleads⟩, hlacks⟩
      refine ⟨file, hfile, ?_⟩
      rw [NamedFile.leads_fixed_iff (Scope.mendsAttributes_of_mem_namedFiles hfile)]
      exact ⟨hleads, hlacks⟩

end

/-! ### Fixes that are announced and not made -/

/-- Whether two paths lead to the same place can be computed. -/
instance (workspace : Workspace) (a b : RepoPath) : Decidable (workspace.SamePlace a b) :=
  match ha : workspace.locate a, hb : workspace.locate b with
  | .ok place, .ok other => decidable_of_iff (place = other) <| by
      simp [Workspace.SamePlace, ha, hb, eq_comm]
  | .error _, _ => .isFalse <| by simp [Workspace.SamePlace, ha]
  | .ok _, .error _ => .isFalse <| by simp [Workspace.SamePlace, hb]

instance (workspace : Workspace) (files : List NamedFile) : Decidable (Separate workspace files) :=
  inferInstanceAs (Decidable (List.Pairwise _ files))

/-- A repository with two modules. The manifest of the first one is an empty object, that of the
second one an empty array. -/
def withoutNames : Workspace where
  root := .folder [
    ("a", .folder [("p", .file (.text "\x7b\x7d"))]),
    ("b", .folder [("p", .file (.text "[]"))]),
    ("config", .file (.text ("\x7b\"extends\": [], \"module-markers\": [\"p\"], \"rules\": " ++
      "\x7b\"packagejson-same-name\": \x7b\"package-json-file\": \"p\"\x7d\x7d\x7d")))]
  current := []

/-- No two checks look at one manifest. -/
theorem separate_withoutNames : ∀ scope, Scope.load withoutNames ⟨"."⟩ "config" false = .ok scope →
    Separate withoutNames scope.namedFiles := by
  have hrun : (Scope.load withoutNames ⟨"."⟩ "config" false).toOption.any (fun scope =>
      decide (Separate withoutNames scope.namedFiles)) = true := by decide +kernel
  intro scope hload
  rw [hload] at hrun
  exact of_decide_eq_true hrun

/-- Both manifests are taken to be fixable, and the first one alone is fixed. -/
theorem lint_dryRun_withoutNames :
    (∀ scope, Scope.load withoutNames ⟨"."⟩ "config" false = .ok scope →
      Separate withoutNames scope.namedFiles) ∧
    ∃ announced done, (lint withoutNames ⟨"."⟩ "config" false).1 = .ok announced ∧
      (lint withoutNames ⟨"."⟩ "config" true).1 = .ok done ∧
      Reports announced .possible Rule.packageName.name "./a/p" ∧
      Reports announced .possible Rule.packageName.name "./b/p" ∧
      Reports done .fixed Rule.packageName.name "./a/p" ∧
      ¬ Reports done .fixed Rule.packageName.name "./b/p" := by
  have hrun : (lint withoutNames ⟨"."⟩ "config" false).1.toOption.any (fun announced =>
      decide (Reports announced .possible Rule.packageName.name "./a/p" ∧
        Reports announced .possible Rule.packageName.name "./b/p")) = true := by decide +kernel
  refine ⟨separate_withoutNames, ?_⟩
  rcases lint_dryRun separate_withoutNames with ⟨failure, hfails, -⟩ |
    ⟨announced, done, hannounced, hdone, hreports⟩
  · rw [hfails] at hrun
    cases hrun
  · rw [hannounced] at hrun
    obtain ⟨ha, hb⟩ := of_decide_eq_true hrun
    refine ⟨announced, done, hannounced, hdone, ha, hb, ?_, ?_⟩
    · refine (hreports _ _).2.mpr ⟨ha, ?_⟩
      rintro ⟨text, hread, ⟨-, manifest, hmanifest, hobject⟩ | ⟨hrule, -⟩⟩
      · have hempty : withoutNames.read ⟨"./a/p"⟩ = .ok "\x7b\x7d" := rfl
        cases hempty.symm.trans hread
        have hparse : Json.parse "\x7b\x7d" = .ok (.object []) := rfl
        cases hparse.symm.trans hmanifest
        cases hobject
      · exact absurd hrule (by decide)
    · intro hfixed
      exact ((hreports _ _).2.mp hfixed).2 ⟨"[]", rfl, Or.inl ⟨rfl, .array [], rfl, rfl⟩⟩

/-- What is said to be fixable without fixes can be said to be impossible to fix with them. -/
theorem not_possible_iff_fixed_withoutNames :
    ¬ ∀ workspace base configFile announced done rule resource,
      (∀ scope, Scope.load workspace base configFile false = .ok scope →
        Separate workspace scope.namedFiles) →
      (lint workspace base configFile false).1 = .ok announced →
      (lint workspace base configFile true).1 = .ok done →
      (Reports announced .possible rule resource ↔ Reports done .fixed rule resource) := by
  intro h
  have hannounced : (lint withoutNames ⟨"."⟩ "config" false).1.toOption.any (fun announced =>
      decide (Reports announced .possible Rule.packageName.name "./b/p")) = true := by
    decide +kernel
  have hdone : (lint withoutNames ⟨"."⟩ "config" true).1.toOption.any (fun done =>
      decide (¬ Reports done .fixed Rule.packageName.name "./b/p")) = true := by decide +kernel
  obtain ⟨announced, hannounced, hpossible⟩ := exists_ok_of_any hannounced
  obtain ⟨done, hdone, hfixed⟩ := exists_ok_of_any hdone
  exact of_decide_eq_true hfixed
    ((h _ _ _ _ _ _ _ separate_withoutNames hannounced hdone).mp (of_decide_eq_true hpossible))

end Conventions
