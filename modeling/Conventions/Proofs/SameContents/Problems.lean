import Conventions.Proofs.SameContents.Itself

/-!
# Problems in a group without a named reference

A module that is compared with itself has a valid finding for everything of its own that can be
compared, and a problem for every file that cannot be read and every required part that it lacks.
A reference is picked by the valid findings only. So the problems of a group are reported through
the reference as long as one of its members has something that can be compared, and none of them
is where no member has.
-/

namespace Conventions.SameContents

section

variable (round : Similarity.Rounding) (workspace : Workspace)

/-- A module has something of what an entry asks for: the file as a whole, or one of the selected
parts of it. -/
def Offers (module : RepoModule) (entry : FileEntry) : Prop :=
  workspace.isFile (module.file entry.name) = true ∧
    (entry.selectors = [] ∨ ∃ document, workspace.load (module.file entry.name) = .ok document ∧
      ∃ selector ∈ entry.selectors, HasPart document selector)

/-! ### Comparing a module with itself -/

/-- A file of a module that is compared with itself has a valid finding exactly if the module has
something of what is compared. -/
theorem exists_valid_compareFile_self_iff (module : RepoModule) (entry : FileEntry) :
    (∃ finding ∈ compareFile round workspace module module entry, finding.valid = true) ↔
      Offers workspace module entry := by
  simp only [mem_compareFile_self_iff]
  constructor
  · rintro ⟨finding, ⟨hfile, ⟨target, htarget, rfl⟩ | hproblem⟩, hvalid⟩
    · refine ⟨hfile, ?_⟩
      cases htarget with
      | whole hwhole => exact Or.inl hwhole
      | part hload hselector hpart => exact Or.inr ⟨_, hload, _, hselector, hpart⟩
    · cases hproblem.valid_eq_false.symm.trans hvalid
  · rintro ⟨hfile, hwhole | ⟨document, hload, selector, hselector, hpart⟩⟩
    · exact ⟨_, ⟨hfile, Or.inl ⟨_, .whole hwhole, rfl⟩⟩, rfl⟩
    · exact ⟨_, ⟨hfile, Or.inl ⟨_, .part hload hselector hpart, rfl⟩⟩, rfl⟩

/-- A module counts for nothing exactly if it has nothing of what is compared. -/
theorem ownCount_eq_zero_iff (options : Options) (module : RepoModule) :
    ownCount round workspace options module = 0 ↔
      ∀ entry ∈ options.files, entry.enabled = true → ¬ Offers workspace module entry := by
  rw [ownCount, List.countP_eq_zero]
  constructor
  · intro hnone entry hentry henabled hoffers
    obtain ⟨found, hfound, hvalid⟩ :=
      (exists_valid_compareFile_self_iff round workspace module entry).mpr hoffers
    exact hnone _ ((mem_compareFiles_iff round).mpr ⟨entry, hentry, henabled, found, hfound, rfl⟩)
      hvalid
  · intro hnone finding hfinding hvalid
    obtain ⟨entry, hentry, henabled, found, hfound, rfl⟩ := (mem_compareFiles_iff round).mp hfinding
    exact hnone entry hentry henabled
      ((exists_valid_compareFile_self_iff round workspace module entry).mp ⟨found, hfound, hvalid⟩)

/-! ### Problems that the reference brings up -/

variable {workspace}

/-- A file of a module that cannot be read is a problem if it is compared by its parts and the
reference has it too. -/
theorem exists_problem_of_unreadable {reference module : RepoModule} {entry : FileEntry}
    {failure : Failure} (hselectors : entry.selectors ≠ [])
    (hreference : workspace.isFile (reference.file entry.name) = true)
    (hfile : workspace.isFile (module.file entry.name) = true)
    (hload : workspace.load (module.file entry.name) = .error failure) :
    ∃ finding ∈ compareFile round workspace reference module entry,
      finding.valid = false ∧ finding.resource = (module.file entry.name).text := by
  have hparts : compareFile round workspace reference module entry =
      compareParts round workspace reference module entry := by
    simp [compareFile, hreference, hfile, hselectors]
  cases hdocuments : documents workspace reference module entry with
  | ok both =>
    have hread := (documents_eq_ok_iff.mp hdocuments).2
    cases hload.symm.trans hread
  | error reason =>
    obtain ⟨text, hrefused⟩ := compareParts_of_error round hdocuments
    rw [hparts, hrefused]
    exact ⟨_, List.mem_singleton_self _, rfl, rfl⟩

variable {round}

/-- A group without a named reference has no findings exactly if no member has anything that can
be compared, whatever problems its files have. If there are findings, they are those that the best
reference brings up: all that is found in the reference itself, its own problems included, and a
problem for every file of a member that cannot be read, is compared by its parts, and is there in
the reference too. -/
theorem compareGroup_eq_nil_iff_offers (modules : List RepoModule) (group : Group)
    (h : group.options.reference? = none) :
    (compareGroup round workspace modules group = [] ↔
      ∀ module ∈ group.members, ∀ entry ∈ group.options.files, entry.enabled = true →
        ¬ Offers workspace module entry) ∧
    (compareGroup round workspace modules group ≠ [] →
      ∃ reference, IsBestReference round workspace group reference ∧
        (∀ finding ∈ compareFiles round workspace group.options reference reference,
          finding ∈ compareGroup round workspace modules group) ∧
        ∀ module ∈ group.members, ∀ entry ∈ group.options.files, entry.enabled = true →
          entry.selectors ≠ [] → workspace.isFile (reference.file entry.name) = true →
          workspace.isFile (module.file entry.name) = true →
          (∃ failure, workspace.load (module.file entry.name) = .error failure) →
          ∃ finding ∈ compareGroup round workspace modules group,
            finding.valid = false ∧ finding.resource = (module.file entry.name).text) := by
  have hbest : compareGroup round workspace modules group = compareBest round workspace group := by
    simp only [compareGroup, h]
  rw [hbest]
  -- A reference is compared with itself as well, so where there is one, there are findings.
  have hnil : compareBest round workspace group = [] ↔
      (leaders round workspace group).members = [] := by
    constructor
    · intro hempty
      by_contra hsome
      obtain ⟨reference, hreference, hresult⟩ := compareBest_of_leaders round workspace group hsome
      exact compareAll_ne_nil round workspace group hreference.1 (hresult.symm.trans hempty)
    · intro hempty
      simp [compareBest, hempty]
  refine ⟨?_, fun hsome => ?_⟩
  · simp only [hnil, leaders_eq_nil_iff, ownCount_eq_zero_iff]
  · obtain ⟨reference, hreference, hresult⟩ :=
      compareBest_of_leaders round workspace group (fun hempty => hsome (hnil.mpr hempty))
    rw [hresult]
    refine ⟨reference, hreference, ?_, ?_⟩
    · intro finding hfinding
      exact List.mem_flatMap.mpr ⟨reference, hreference.1.1, hfinding⟩
    · rintro module hmodule entry hentry henabled hselectors hthere hfile ⟨failure, hload⟩
      obtain ⟨found, hfound, hinvalid, hresource⟩ :=
        exists_problem_of_unreadable round hselectors hthere hfile hload
      refine ⟨found.about module, List.mem_flatMap.mpr ⟨module, hmodule, ?_⟩, hinvalid, hresource⟩
      exact (mem_compareFiles_iff round).mpr ⟨entry, hentry, henabled, found, hfound, rfl⟩

end

/-! ### Malformed manifests -/

/-- The licenses in manifests are compared. -/
def licenseEntry : FileEntry :=
  ⟨"package.json", true, Binary64.ofInt 100, [⟨"license", ⟨[.key "license"]⟩, false⟩]⟩

/-- Two modules of which the licenses are compared. -/
def licenses : Group := ⟨⟨none, [licenseEntry]⟩, [bareModule "a", bareModule "b"]⟩

/-- Two modules, the first of which has a malformed manifest. -/
def manifests (second : String) : Workspace where
  root := .folder [
    ("a", .folder [("package.json", .file (.text "\x7b nope"))]),
    ("b", .folder [("package.json", .file (.text second))])]
  current := []

/-- The malformed manifest is reported if the other one has a license. -/
theorem problem_reported_besideLicense :
    licenses.options.reference? = none ∧
      ∃ finding ∈ compareGroup Similarity.doubles (manifests "\x7b\"license\": \"MIT\"\x7d")
          licenses.members licenses,
        finding.valid = false ∧ finding.resource = "a/package.json" := by
  refine ⟨rfl, ?_⟩
  obtain ⟨hnil, hreports⟩ := @compareGroup_eq_nil_iff_offers Similarity.doubles
    (manifests "\x7b\"license\": \"MIT\"\x7d") licenses.members licenses rfl
  have hlicense : ((manifests "\x7b\"license\": \"MIT\"\x7d").load ⟨"b/package.json"⟩).toOption.any
      (fun document => (Similarity.present
        (Query.select ⟨[.key "license"]⟩ document)).isSome) = true := by decide +kernel
  obtain ⟨document, hload, hpart⟩ := exists_ok_of_any hlicense
  have hoffers : Offers (manifests "\x7b\"license\": \"MIT\"\x7d") (bareModule "b") licenseEntry :=
    ⟨by decide +kernel, Or.inr ⟨document, hload, _, List.mem_singleton_self _, hpart⟩⟩
  have hmalformed : ∃ failure, (manifests "\x7b\"license\": \"MIT\"\x7d").load
      ((bareModule "a").file licenseEntry.name) = .error failure := by
    have hnone : ((manifests "\x7b\"license\": \"MIT\"\x7d").load
        ⟨"a/package.json"⟩).toOption.isNone = true := by decide +kernel
    cases hload : (manifests "\x7b\"license\": \"MIT\"\x7d").load
        ((bareModule "a").file licenseEntry.name) with
    | error failure => exact ⟨failure, rfl⟩
    | ok document =>
      have hsome := congrArg (fun result => result.toOption.isNone) hload
      cases hnone.symm.trans hsome
  obtain ⟨reference, hreference, -, hunreadable⟩ := hreports fun hempty =>
    hnil.mp hempty (bareModule "b") (by simp [licenses]) licenseEntry (List.mem_singleton_self _)
      rfl hoffers
  have hthere : (manifests "\x7b\"license\": \"MIT\"\x7d").isFile
      (reference.file licenseEntry.name) = true := by
    have hmember : reference = bareModule "a" ∨ reference = bareModule "b" := by
      simpa [licenses] using hreference.1.1
    rcases hmember with rfl | rfl
    · decide +kernel
    · decide +kernel
  exact hunreadable (bareModule "a") (by simp [licenses]) licenseEntry (List.mem_singleton_self _)
    rfl (by simp [licenseEntry]) hthere (by decide +kernel) hmalformed

/-- Where both manifests are malformed, comparing a member with itself finds a problem in it, and
the group has no findings at all. -/
theorem not_reported_malformedManifests :
    ¬ ∀ round workspace modules (group : Group), group.options.reference? = none →
      (∃ module ∈ group.members,
        compareFiles round workspace group.options module module ≠ []) →
      compareGroup round workspace modules group ≠ [] := by
  intro h
  refine h Similarity.doubles (manifests "\x7b nope") licenses.members licenses rfl
    ⟨bareModule "a", by simp [licenses], ?_⟩ ?_
  · decide +kernel
  · decide +kernel

end Conventions.SameContents
