import Conventions.Proofs.SameContents.Comparison
import Conventions.Proofs.SameContents.Options

/-!
# What is found without a selector

The findings about a file are those about its parts, one after the other. A selector that is
switched off takes the findings about its part away and leaves all others, provided that another
selector is left. Behind the last selector the file is compared as a whole.
-/

namespace Conventions.SameContents

section

variable (round : Similarity.Rounding) (workspace : Workspace) (reference module : RepoModule)

/-- What the comparison of a file finds in one part of it: nothing, if one of the modules lacks the
file or the parts cannot be compared. -/
def compareOnly (entry : FileEntry) (selector : Selector) : List Finding :=
  if workspace.isFile (reference.file entry.name) && workspace.isFile (module.file entry.name) then
    match documents workspace reference module entry with
    | .ok (expected, found) => comparePart round reference module entry expected found selector
    | .error _ => []
  else []

/-- The findings about one part of a file, as findings about the module. -/
def partFindings (entry : FileEntry) (selector : Selector) : List Finding :=
  if entry.enabled then
    (compareOnly round workspace reference module entry selector).map (Finding.about module)
  else []

/-- The findings about one file, as findings about the module. -/
def fileFindings (entry : FileEntry) : List Finding :=
  if entry.enabled then
    (compareFile round workspace reference module entry).map (Finding.about module)
  else []

/-- The files of options are compared one after the other. -/
theorem compareFiles_eq_flatMap (options : Options) :
    compareFiles round workspace options reference module =
      options.files.flatMap (fileFindings round workspace reference module) := by
  rw [compareFiles, List.map_flatMap]
  induction options.files with
  | nil => rfl
  | cons entry rest ih =>
    by_cases henabled : entry.enabled = true
    · simp [henabled, fileFindings, ih]
    · simp [henabled, fileFindings, ih]

/-- A finding is about a part of a file: about all of it, or about one of its attributes. -/
def IsAboutPart (entry : FileEntry) (selector : Selector) (finding : Finding) : Prop :=
  let target := (module.file entry.name).text ++ "[" ++ selector.raw ++ "]"
  finding.resource = target ∨ ∃ key, finding.resource = target ++ "." ++ key

end

variable {round : Similarity.Rounding} {workspace : Workspace} {reference module : RepoModule}
  {entry : FileEntry} {selector : Selector}

/-- A target that is judged is what the finding is about. -/
theorem resource_judge (target : String) (score : Rat) :
    (judge reference entry target score).resource = target := by
  simp only [judge]
  split
  · rfl
  · rfl

/-- What is found in a part is about this part. -/
theorem isAboutPart_of_mem_comparePart {expected found : Json} :
    ∀ finding ∈ comparePart round reference module entry expected found selector,
      IsAboutPart module entry selector finding := by
  simp only [comparePart]
  split
  · exact List.forall_mem_singleton.mpr (Or.inl rfl)
  · exact List.forall_mem_singleton.mpr (Or.inl rfl)
  · exact fun finding hfinding => absurd hfinding List.not_mem_nil
  · split
    · exact List.forall_mem_singleton.mpr (Or.inl rfl)
    · simp only [judgeScores, List.forall_mem_cons]
      refine ⟨Or.inl (resource_judge _ _), ?_⟩
      split
      · rw [List.forall_mem_map]
        exact fun score _ => Or.inr ⟨score.1, resource_judge _ _⟩
      · exact fun finding hfinding => absurd hfinding List.not_mem_nil

/-- The findings about a part of a file are about this part. -/
theorem isAboutPart_of_mem_partFindings :
    ∀ finding ∈ partFindings round workspace reference module entry selector,
      IsAboutPart module entry selector finding := by
  intro finding hfinding
  unfold partFindings at hfinding
  split at hfinding
  · obtain ⟨found, hfound, rfl⟩ := List.mem_map.mp hfinding
    unfold compareOnly at hfound
    split at hfound
    · split at hfound
      · exact isAboutPart_of_mem_comparePart found hfound
      · cases hfound
    · cases hfound
  · cases hfinding

/-- Without one of its selectors, a list of selectors has the same ones before and behind it. -/
theorem exists_split_of_mem {selectors : List Selector} (h : (selectors.map (·.raw)).Nodup)
    (hselector : selector ∈ selectors) : ∃ before after, selectors = before ++ selector :: after ∧
      selectors.filter (fun other => other.raw != selector.raw) = before ++ after := by
  obtain ⟨before, after, rfl⟩ := List.append_of_mem hselector
  refine ⟨before, after, rfl, ?_⟩
  rw [List.map_append, List.map_cons, List.nodup_append] at h
  obtain ⟨-, hafter, hbefore⟩ := h
  obtain ⟨hfirst, -⟩ := List.nodup_cons.mp hafter
  rw [List.filter_append, List.filter_cons_of_neg (by simp), List.filter_eq_self.mpr,
    List.filter_eq_self.mpr]
  · intro other hother
    refine bne_iff_ne.mpr fun hsame => hfirst ?_
    rw [← hsame]
    exact List.mem_map_of_mem hother
  · intro other hother
    exact bne_iff_ne.mpr (hbefore _ (List.mem_map_of_mem hother) _ List.mem_cons_self)

variable (round workspace reference module) in
/-- A file of which a part is no longer compared, but another one still is, comes to the same but
for what is found in this part. -/
theorem compareFile_without {before after : List Selector}
    (hsplit : entry.selectors = before ++ selector :: after) (hkept : before ++ after ≠ []) :
    ∃ left right, compareFile round workspace reference module entry =
        left ++ compareOnly round workspace reference module entry selector ++ right ∧
      compareFile round workspace reference module { entry with selectors := before ++ after } =
        left ++ right := by
  have hsome : entry.selectors.isEmpty = false := by simp [hsplit]
  have hrest : (before ++ after).isEmpty = false := List.isEmpty_eq_false_iff.mpr hkept
  unfold compareFile compareOnly
  by_cases hshared : (workspace.isFile (reference.file entry.name) &&
      workspace.isFile (module.file entry.name)) = true
  · simp only [hshared, hsome, hrest, Bool.not_true, Bool.false_eq_true, if_false, if_true]
    have hsame : documents workspace reference module { entry with selectors := before ++ after } =
        documents workspace reference module entry := rfl
    cases hdocuments : documents workspace reference module entry with
    | error failure =>
      -- The one problem is there with and without the part.
      refine ⟨compareParts round workspace reference module entry, [], by simp, ?_⟩
      simp only [compareParts, hsame, hdocuments, List.append_nil]
    | ok both =>
      have hparts := compareParts_of_ok round hdocuments
      have hothers := compareParts_of_ok round (hsame.trans hdocuments)
      rw [hparts, hothers, hsplit, List.flatMap_append, List.flatMap_append, List.flatMap_cons]
      refine ⟨before.flatMap (comparePart round reference module entry both.1 both.2),
        after.flatMap (comparePart round reference module entry both.1 both.2), ?_, rfl⟩
      simp
  · exact ⟨[], [], by simp [hshared], by simp [hshared]⟩

variable (round workspace reference module) in
/-- A file of which a part is no longer compared, but another one still is, has the same findings
but for those about this part. -/
theorem fileFindings_without (h : (entry.selectors.map (·.raw)).Nodup)
    (hselector : selector ∈ entry.selectors)
    (hkept : ∃ kept ∈ entry.selectors, kept ≠ selector) :
    ∃ left right, fileFindings round workspace reference module entry =
        left ++ partFindings round workspace reference module entry selector ++ right ∧
      fileFindings round workspace reference module { entry with
        selectors := entry.selectors.filter fun other => other.raw != selector.raw } =
          left ++ right := by
  obtain ⟨before, after, hsplit, hfilter⟩ := exists_split_of_mem h hselector
  have hrest : before ++ after ≠ [] := by
    obtain ⟨kept, hmem, hne⟩ := hkept
    rw [hsplit, List.mem_append, List.mem_cons, or_left_comm] at hmem
    exact List.ne_nil_of_mem (List.mem_append.mpr (hmem.resolve_left hne))
  obtain ⟨left, right, hboth, hothers⟩ :=
    compareFile_without round workspace reference module hsplit hrest
  rw [hfilter]
  unfold fileFindings partFindings
  rw [hboth, hothers]
  by_cases henabled : entry.enabled = true
  · exact ⟨left.map (Finding.about module), right.map (Finding.about module), by simp [henabled],
      by simp [henabled]⟩
  · exact ⟨[], [], by simp [henabled], by simp [henabled]⟩

/-- Every selector can be switched off. One that is takes the findings about its part away, and no
other finding is added, removed or changed, if the file keeps another selector. If it was the only
one, the file is compared as a whole from there on: all findings about it make room for the one
about the whole file. -/
theorem compareFiles_switchOff {setting : RuleSetting} {own : Setting} {options : Options}
    (hown : Setting.ofRuleSetting setting = .ok own)
    (hoptions : Options.ofSetting setting = .ok options) (hentry : entry ∈ options.files)
    (hselector : selector ∈ entry.selectors) :
    (∃ other, Setting.ofRuleSetting other = .ok (own.switchOff entry.name selector.raw)) ∧
    ∀ other, Setting.ofRuleSetting other = .ok (own.switchOff entry.name selector.raw) →
    ∃ options', Options.ofSetting other = .ok options' ∧
      options'.reference? = options.reference? ∧
      ∀ round workspace reference module,
        ((∃ kept ∈ entry.selectors, kept ≠ selector) → ∃ left right,
          compareFiles round workspace options reference module =
            left ++ partFindings round workspace reference module entry selector ++ right ∧
          compareFiles round workspace options' reference module = left ++ right ∧
          ∀ finding ∈ partFindings round workspace reference module entry selector,
            IsAboutPart module entry selector finding) ∧
        (entry.selectors = [selector] → ∃ left right,
          compareFiles round workspace options reference module =
            left ++ fileFindings round workspace reference module entry ++ right ∧
          compareFiles round workspace options' reference module =
            left ++ fileFindings round workspace reference module { entry with selectors := [] } ++
              right) := by
  refine ⟨Setting.exists_ofRuleSetting_switchOff hown _ _, fun other hother => ?_⟩
  obtain ⟨hnodup, before, after, hfiles, hoff⟩ := ofSetting_switchOff hown hother hoptions hentry
  refine ⟨_, hoff, rfl, fun round workspace reference module => ?_⟩
  let earlier := before.flatMap (fileFindings round workspace reference module)
  let later := after.flatMap (fileFindings round workspace reference module)
  simp only [compareFiles_eq_flatMap, hfiles, List.flatMap_append, List.flatMap_cons]
  constructor
  · intro hkept
    obtain ⟨left, right, hboth, hothers⟩ :=
      fileFindings_without round workspace reference module hnodup hselector hkept
    refine ⟨earlier ++ left, right ++ later, ?_, ?_, isAboutPart_of_mem_partFindings⟩
    · simp only [hboth, earlier, later, List.append_assoc]
    · simp only [hothers, earlier, later, List.append_assoc]
  · intro honly
    refine ⟨earlier, later, ?_, ?_⟩
    · simp only [earlier, later, List.append_assoc]
    · simp only [honly, List.filter_cons_of_neg, bne_self_eq_false, Bool.false_eq_true,
        not_false_eq_true, List.filter_nil, earlier, later, List.append_assoc]

/-! ### Selectors of one file -/

/-- A setting with the selectors of one file. -/
def appSetting (selectors : Entries Json) : RuleSetting :=
  .structured (.object [("reference-module", .string "a"),
    ("files", .object [("app.json", .object [("selectors", .object selectors)])])])

/-- The setting as it is read. -/
def appOwn (selectors : Entries Json) : Setting :=
  ⟨some "a", [("app.json", .object [("selectors", .object selectors)])]⟩

/-- The license in the file. -/
def licensePart : Selector := ⟨"license", ⟨[.key "license"]⟩, false⟩

/-- The version in the file. -/
def versionPart : Selector := ⟨"version", ⟨[.key "version"]⟩, false⟩

/-- The file with some of its parts. -/
def appEntry (selectors : List Selector) : FileEntry :=
  ⟨"app.json", true, Binary64.ofInt 100, selectors⟩

/-- Two modules with one license and different versions. -/
def twoApps : Workspace where
  root := .folder [
    ("a", .folder [("app.json", .file (.text "\x7b\"license\": \"MIT\", \"version\": 1\x7d"))]),
    ("b", .folder [("app.json", .file (.text "\x7b\"license\": \"MIT\", \"version\": 2\x7d"))])]
  current := []

/-- Whether options have the file with some of its parts. -/
def hasApp (selectors : List Selector) (options : Options) : Bool :=
  options.files.any fun entry => entry.name == "app.json" && entry.enabled &&
    entry.minSimilarity == Binary64.ofInt 100 && entry.selectors == selectors

/-- Options that have the file have its entry. -/
theorem mem_files_of_hasApp {selectors : List Selector} {options : Options}
    (h : hasApp selectors options = true) : appEntry selectors ∈ options.files := by
  obtain ⟨entry, hentry, h⟩ := List.any_eq_true.mp h
  simp only [Bool.and_eq_true, beq_iff_eq] at h
  obtain ⟨⟨⟨hname, henabled⟩, hminimum⟩, hselectors⟩ := h
  have hsame : entry = appEntry selectors := by
    cases entry
    simp_all [appEntry]
  exact hsame ▸ hentry

/-- Where the license is no longer compared, only the finding about it is missing. -/
theorem compareFiles_switchOff_license : ∃ options options' left right,
    Options.ofSetting (appSetting [("license", .bool true), ("version", .bool true)]) =
      .ok options ∧
    Options.ofSetting (appSetting [("license", .bool false), ("version", .bool true)]) =
      .ok options' ∧
    compareFiles Similarity.doubles twoApps options (bareModule "a") (bareModule "b") =
      left ++ partFindings Similarity.doubles twoApps (bareModule "a") (bareModule "b")
        (appEntry [licensePart, versionPart]) licensePart ++ right ∧
    compareFiles Similarity.doubles twoApps options' (bareModule "a") (bareModule "b") =
      left ++ right ∧
    partFindings Similarity.doubles twoApps (bareModule "a") (bareModule "b")
      (appEntry [licensePart, versionPart]) licensePart ≠ [] := by
  have happ : (Options.ofSetting (appSetting [("license", .bool true),
      ("version", .bool true)])).toOption.any (hasApp [licensePart, versionPart]) = true := by
    decide +kernel
  obtain ⟨options, hoptions, hhas⟩ := exists_ok_of_any happ
  have hother : Setting.ofRuleSetting (appSetting [("license", .bool false),
      ("version", .bool true)]) = .ok ((appOwn [("license", .bool true),
        ("version", .bool true)]).switchOff (appEntry [licensePart, versionPart]).name
          licensePart.raw) := rfl
  have hlicense : licensePart ∈ (appEntry [licensePart, versionPart]).selectors :=
    List.mem_cons_self
  obtain ⟨-, hoff⟩ := compareFiles_switchOff rfl hoptions (mem_files_of_hasApp hhas) hlicense
  obtain ⟨options', hoptions', -, hfindings⟩ := hoff _ hother
  obtain ⟨left, right, hboth, hothers, -⟩ := (hfindings Similarity.doubles twoApps (bareModule "a")
    (bareModule "b")).1 ⟨versionPart, by simp [appEntry], by decide⟩
  exact ⟨options, options', left, right, hoptions, hoptions', hboth, hothers, by decide +kernel⟩

/-- Where the license was all that was compared, the file is compared as a whole without it, and a
problem comes up that was none before. -/
theorem not_only_removed_lastSelector :
    ¬ ∀ (setting other : RuleSetting) (own : Setting) (options options' : Options)
      (entry : FileEntry) (selector : Selector), Setting.ofRuleSetting setting = .ok own →
      Setting.ofRuleSetting other = .ok (own.switchOff entry.name selector.raw) →
      Options.ofSetting setting = .ok options → Options.ofSetting other = .ok options' →
      entry ∈ options.files → selector ∈ entry.selectors →
      ∀ round workspace reference module,
        ∀ finding ∈ compareFiles round workspace options' reference module,
          finding ∈ compareFiles round workspace options reference module := by
  intro h
  have hnew : (Options.ofSetting (appSetting [("license", .bool true)])).toOption.any
      (fun options => hasApp [licensePart] options &&
        (Options.ofSetting (appSetting [("license", .bool false)])).toOption.any fun options' =>
          (compareFiles Similarity.doubles twoApps options' (bareModule "a") (bareModule "b")).any
            fun finding => decide (finding ∉
              compareFiles Similarity.doubles twoApps options (bareModule "a") (bareModule "b"))) =
      true := by decide +kernel
  obtain ⟨options, hoptions, hnew⟩ := exists_ok_of_any hnew
  obtain ⟨hhas, hnew⟩ := Bool.and_eq_true_iff.mp hnew
  obtain ⟨options', hoptions', hnew⟩ := exists_ok_of_any hnew
  obtain ⟨finding, hfinding, hmissing⟩ := List.any_eq_true.mp hnew
  rw [decide_eq_true_iff] at hmissing
  exact hmissing (h _ _ (appOwn [("license", .bool true)]) options options' (appEntry [licensePart])
    licensePart rfl rfl hoptions hoptions' (mem_files_of_hasApp hhas) (by simp [appEntry]) _ _ _ _
    finding hfinding)

end Conventions.SameContents
