import Conventions.Proofs.SameContents.Comparison
import Conventions.Proofs.SameContents.Reference

/-!
# The reference itself

The reference of a group is compared with itself as well, be it named or picked. What it has of
what is compared is in order, and is said to be the reference. But that is said last: before it,
files with selectors are checked like those of any other module, so that a file of an unsupported
format, a file that cannot be read, and a required part that is not there are problems of the
reference too.
-/

namespace Conventions.SameContents

/-- A document has the part that a selector asks for, and the part is not empty. -/
def HasPart (document : Json) (selector : Selector) : Prop :=
  (Similarity.present (selector.query.select document)).isSome = true

section

variable (workspace : Workspace) (module : RepoModule) (entry : FileEntry)

/-- What a module has of what an entry asks for: the file, if it is compared as a whole, or else
the selected parts that are there. -/
inductive HasTarget : String → Prop
  | whole : entry.selectors = [] → HasTarget (module.file entry.name).text
  | part {document : Json} {selector : Selector} :
      workspace.load (module.file entry.name) = .ok document → selector ∈ entry.selectors →
      HasPart document selector → HasTarget (partName module entry selector)

/-- The problems of a module that is the reference with its own file. There are none if the file is
compared as a whole. -/
inductive IsOwnProblem : Finding → Prop
  | unsupported : entry.selectors ≠ [] → ContentFormat.ofPath? (module.file entry.name) = none →
      IsOwnProblem (refuse (module.file entry.name).text
        "Selectors can only be used with .json, .yml, .yaml and Makefile files")
  | unreadable {failure : Failure} : entry.selectors ≠ [] →
      ContentFormat.ofPath? (module.file entry.name) ≠ none →
      workspace.load (module.file entry.name) = .error failure →
      IsOwnProblem (refuse (module.file entry.name).text failure.message)
  | missing {document : Json} {selector : Selector} :
      workspace.load (module.file entry.name) = .ok document → selector ∈ entry.selectors →
      selector.required = true → ¬ HasPart document selector →
      IsOwnProblem (refuse (partName module entry selector)
        ("Required content not found in reference module '" ++ module.name ++ "'"))

/-- What is said of a file of the reference. -/
def IsOwnFinding (finding : Finding) : Prop :=
  (∃ target, HasTarget workspace module entry target ∧ finding = itself target) ∨
    IsOwnProblem workspace module entry finding

end

variable {round : Similarity.Rounding} {workspace : Workspace} {reference : RepoModule}
  {entry : FileEntry}

/-- A problem is not valid. -/
theorem IsOwnProblem.valid_eq_false {problem : Finding}
    (h : IsOwnProblem workspace reference entry problem) : problem.valid = false := by
  cases h with
  | unsupported => rfl
  | unreadable => rfl
  | missing => rfl

/-! ### The findings about one file -/

/-- What is said of a part of the reference, which is compared with itself. -/
theorem comparePart_self {document : Json} {selector : Selector} :
    comparePart round reference reference entry document document selector =
      match Similarity.present (selector.query.select document), selector.required with
      | some _, _ => [itself (partName reference entry selector)]
      | none, true => [refuse (partName reference entry selector)
          ("Required content not found in reference module '" ++ reference.name ++ "'")]
      | none, false => [] := by
  have hsame : reference.path.same reference.path = true := RepoPath.same_iff.mpr rfl
  unfold comparePart
  cases Similarity.present (selector.query.select document) with
  | none => cases selector.required <;> rfl
  | some part => cases selector.required <;> simp only [hsame, if_true, partName]

/-- It is said that the part is there, or that it is required and is not. -/
theorem mem_comparePart_self_iff {document : Json} {selector : Selector} {finding : Finding} :
    finding ∈ comparePart round reference reference entry document document selector ↔
      (HasPart document selector ∧ finding = itself (partName reference entry selector)) ∨
      (¬ HasPart document selector ∧ selector.required = true ∧
        finding = refuse (partName reference entry selector)
          ("Required content not found in reference module '" ++ reference.name ++ "'")) := by
  rw [comparePart_self, HasPart]
  cases Similarity.present (selector.query.select document) with
  | none => cases selector.required <;> simp
  | some part => simp

/-- Of a file of the reference that is compared as a whole, nothing else is said. -/
theorem isOwnFinding_iff_of_whole {finding : Finding} (hwhole : entry.selectors = []) :
    IsOwnFinding workspace reference entry finding ↔
      finding = itself (reference.file entry.name).text := by
  constructor
  · rintro (⟨target, htarget, rfl⟩ | hproblem)
    · cases htarget with
      | whole => rfl
      | part _ hselector => simp [hwhole] at hselector
    · cases hproblem with
      | unsupported hselectors => exact absurd hwhole hselectors
      | unreadable hselectors => exact absurd hwhole hselectors
      | missing _ hselector => simp [hwhole] at hselector
  · rintro rfl
    exact Or.inl ⟨_, .whole hwhole, rfl⟩

/-- Of a file of the reference that can be read, this is said of its selected parts. -/
theorem isOwnFinding_iff_of_load {document : Json} {finding : Finding}
    (hselectors : entry.selectors ≠ [])
    (hload : workspace.load (reference.file entry.name) = .ok document) :
    IsOwnFinding workspace reference entry finding ↔ ∃ selector ∈ entry.selectors,
      finding ∈ comparePart round reference reference entry document document selector := by
  have hformat := isSome_ofPath?_of_load hload
  simp only [mem_comparePart_self_iff]
  constructor
  · rintro (⟨target, htarget, rfl⟩ | hproblem)
    · cases htarget with
      | whole hwhole => exact absurd hwhole hselectors
      | part hread hselector hpart =>
        cases hload.symm.trans hread
        exact ⟨_, hselector, Or.inl ⟨hpart, rfl⟩⟩
    · cases hproblem with
      | unsupported _ hnone => simp [hnone] at hformat
      | unreadable _ _ hfailed => cases hload.symm.trans hfailed
      | missing hread hselector hrequired hmissing =>
        cases hload.symm.trans hread
        exact ⟨_, hselector, Or.inr ⟨hmissing, hrequired, rfl⟩⟩
  · rintro ⟨selector, hselector, ⟨hpart, rfl⟩ | ⟨hmissing, hrequired, rfl⟩⟩
    · exact Or.inl ⟨_, .part hload hselector hpart, rfl⟩
    · exact Or.inr (.missing hload hselector hrequired hmissing)

/-- Of a file of the reference that cannot be read, only the reason is said. -/
theorem isOwnFinding_iff_of_error {failure : Failure} {finding : Finding}
    (hselectors : entry.selectors ≠ [])
    (hload : workspace.load (reference.file entry.name) = .error failure) :
    IsOwnFinding workspace reference entry finding ↔
      finding = refuse (reference.file entry.name).text
        (if (ContentFormat.ofPath? (reference.file entry.name)).isNone then
          "Selectors can only be used with .json, .yml, .yaml and Makefile files"
        else failure.message) := by
  constructor
  · rintro (⟨target, htarget, rfl⟩ | hproblem)
    · cases htarget with
      | whole hwhole => exact absurd hwhole hselectors
      | part hread => cases hload.symm.trans hread
    · cases hproblem with
      | unsupported _ hnone => simp [hnone]
      | unreadable _ hformat hfailed =>
        cases hload.symm.trans hfailed
        simp [hformat]
      | missing hread => cases hload.symm.trans hread
  · rintro rfl
    by_cases hformat : ContentFormat.ofPath? (reference.file entry.name) = none
    · rw [if_pos (by simp [hformat])]
      exact Or.inr (.unsupported hselectors hformat)
    · rw [if_neg (by simp [hformat])]
      exact Or.inr (.unreadable hselectors hformat hload)

/-- What is said of the selected parts of a file of the reference. -/
theorem mem_compareParts_self_iff {finding : Finding} (hselectors : entry.selectors ≠ []) :
    finding ∈ compareParts round workspace reference reference entry ↔
      IsOwnFinding workspace reference entry finding := by
  cases hload : workspace.load (reference.file entry.name) with
  | ok document =>
    rw [compareParts_of_ok round (documents_eq_ok_iff.mpr ⟨hload, hload⟩), List.mem_flatMap,
      isOwnFinding_iff_of_load hselectors hload]
  | error failure =>
    rw [isOwnFinding_iff_of_error hselectors hload]
    simp only [compareParts, documents_of_error hload]
    split
    · simp
    · simp

/-- What is said of a file of the reference. -/
theorem mem_compareFile_self_iff {finding : Finding} :
    finding ∈ compareFile round workspace reference reference entry ↔
      workspace.isFile (reference.file entry.name) = true ∧
        IsOwnFinding workspace reference entry finding := by
  have hsame : reference.path.same reference.path = true := RepoPath.same_iff.mpr rfl
  unfold compareFile
  by_cases hfile : workspace.isFile (reference.file entry.name) = true
  · by_cases hwhole : entry.selectors = []
    · simp [hfile, hwhole, compareWhole, hsame, isOwnFinding_iff_of_whole hwhole]
    · simp [hfile, hwhole, mem_compareParts_self_iff]
  · simp [hfile]

/-! ### The reference of a group -/

section

variable (round workspace)

/-- A module is the reference of a group: it is the only one with the name that the options give,
or else the best of the members. -/
def IsReference (modules : List RepoModule) (group : Group) (reference : RepoModule) : Prop :=
  match group.options.reference? with
  | some name => modules.filter (·.name == name) = [reference]
  | none => IsBestReference round workspace group reference

end

variable {modules : List RepoModule} {group : Group}

/-- Behind the best reference there is no other one. -/
theorem IsBestReference.not_before {other : RepoModule} {before middle after : List RepoModule}
    (hreference : IsFullest round workspace group reference)
    (hother : IsFullest round workspace group other)
    (hafter : ∀ module ∈ middle ++ other :: after, IsFullest round workspace group module →
      problemsWith round workspace group reference ≤ problemsWith round workspace group module)
    (hbefore : ∀ module ∈ before ++ reference :: middle, IsFullest round workspace group module →
      problemsWith round workspace group other < problemsWith round workspace group module) :
    False := by
  have hmore := hafter other (by simp) hother
  have hless := hbefore reference (by simp) hreference
  omega

/-- A group has one best reference. -/
theorem IsBestReference.unique {other : RepoModule}
    (h : IsBestReference round workspace group reference)
    (h' : IsBestReference round workspace group other) : reference = other := by
  obtain ⟨hfullest, before, after, hmembers, hbefore, hafter⟩ := h
  obtain ⟨hfullest', before', after', hmembers', hbefore', hafter'⟩ := h'
  rw [hmembers, List.append_eq_append_iff] at hmembers'
  rcases hmembers' with ⟨middle, rfl, hrest⟩ | ⟨middle, rfl, hrest⟩
  · cases middle with
    | nil => exact (List.cons.inj hrest).1
    | cons first middle =>
      obtain ⟨rfl, rfl⟩ := List.cons.inj hrest
      exact (IsBestReference.not_before hfullest hfullest' hafter hbefore').elim
  · cases middle with
    | nil => exact (List.cons.inj hrest).1.symm
    | cons first middle =>
      obtain ⟨rfl, rfl⟩ := List.cons.inj hrest
      exact (IsBestReference.not_before hfullest' hfullest hafter' hbefore).elim

/-- A group is compared with its reference. -/
theorem compareGroup_of_isReference (h : IsReference round workspace modules group reference) :
    compareGroup round workspace modules group =
      compareAll round workspace group.options group.members reference := by
  unfold IsReference at h
  unfold compareGroup
  cases hnamed : group.options.reference? with
  | some name =>
    simp only [hnamed] at h
    simp only [compareNamed, h]
  | none =>
    simp only [hnamed] at h
    have hleader := (mem_leaders_iff round workspace group reference).mpr h.1
    obtain ⟨best, hbest, hresult⟩ := compareBest_of_leaders round workspace group
      (List.ne_nil_of_mem hleader)
    rw [hbest.unique h] at hresult
    exact hresult

/-- What is said of a file of a module depends on the place of the module only. -/
theorem compareFile_eq_self {member : RepoModule} (h : member.path = reference.path) :
    compareFile round workspace reference member entry =
      compareFile round workspace reference reference entry := by
  unfold compareFile compareWhole compareParts documents comparePart RepoModule.file
  rw [h]

/-- What is said of the files of a member that is the reference. -/
theorem mem_compareFiles_self_iff {options : Options} {member : RepoModule} {finding : Finding}
    (h : member.ref = reference.ref) :
    finding ∈ compareFiles round workspace options reference member ↔
      ∃ entry ∈ options.files, entry.enabled = true ∧
        workspace.isFile (reference.file entry.name) = true ∧
        ∃ own, IsOwnFinding workspace reference entry own ∧ finding = own.about reference := by
  have hpath : member.path = reference.path := congrArg ModuleRef.path h
  have habout (own : Finding) : own.about member = own.about reference := by
    unfold Finding.about
    rw [h]
  simp only [mem_compareFiles_iff, compareFile_eq_self hpath, mem_compareFile_self_iff, habout]
  constructor
  · rintro ⟨entry, hentry, henabled, own, ⟨hfile, hown⟩, rfl⟩
    exact ⟨entry, hentry, henabled, hfile, own, hown, rfl⟩
  · rintro ⟨entry, hentry, henabled, hfile, own, hown, rfl⟩
    exact ⟨entry, hentry, henabled, own, ⟨hfile, hown⟩, rfl⟩

/-- What is said of the reference is what is said of the members that are the reference. -/
theorem mem_compareAll_reference_iff {options : Options} {members : List RepoModule}
    {finding : Finding} :
    (finding ∈ compareAll round workspace options members reference ∧
      finding.module? = some reference.ref) ↔
    (∃ member ∈ members, member.ref = reference.ref) ∧
      ∃ entry ∈ options.files, entry.enabled = true ∧
        workspace.isFile (reference.file entry.name) = true ∧
        ∃ own, IsOwnFinding workspace reference entry own ∧ finding = own.about reference := by
  rw [compareAll, List.mem_flatMap]
  constructor
  · rintro ⟨⟨member, hmember, hfinding⟩, hmodule⟩
    obtain ⟨-, -, -, found, -, rfl⟩ := (mem_compareFiles_iff round).mp hfinding
    have hsame : member.ref = reference.ref := Option.some.inj hmodule
    exact ⟨⟨member, hmember, hsame⟩, (mem_compareFiles_self_iff hsame).mp hfinding⟩
  · rintro ⟨⟨member, hmember, hsame⟩, hown⟩
    refine ⟨⟨member, hmember, (mem_compareFiles_self_iff hsame).mpr hown⟩, ?_⟩
    obtain ⟨-, -, -, -, own, -, rfl⟩ := hown
    rfl

/-- Whether the reference of a group is named or picked, all that is said of its own files is that
they are those of the reference, unless a file that is compared by its parts has an unsupported
format or cannot be read, or lacks a required part. If the reference is one of the members, all of
this is said. -/
theorem compareGroup_reference (h : IsReference round workspace modules group reference) :
    (∀ finding ∈ compareGroup round workspace modules group,
      finding.module? = some reference.ref →
      (finding.valid = true ∧ finding.message? = some "Reference file") ∨
      ∃ entry ∈ group.options.files, entry.enabled = true ∧
        workspace.isFile (reference.file entry.name) = true ∧
        ∃ problem, IsOwnProblem workspace reference entry problem ∧
          finding = problem.about reference) ∧
    ∀ finding, (finding ∈ compareGroup round workspace modules group ∧
        finding.module? = some reference.ref) ↔
      (∃ member ∈ group.members, member.ref = reference.ref) ∧
        ∃ entry ∈ group.options.files, entry.enabled = true ∧
          workspace.isFile (reference.file entry.name) = true ∧
          ∃ own, IsOwnFinding workspace reference entry own ∧ finding = own.about reference := by
  rw [compareGroup_of_isReference h]
  refine ⟨fun finding hfinding hmodule => ?_, fun finding => mem_compareAll_reference_iff⟩
  obtain ⟨-, entry, hentry, henabled, hfile, own, ⟨target, -, rfl⟩ | hproblem, rfl⟩ :=
    mem_compareAll_reference_iff.mp ⟨hfinding, hmodule⟩
  · exact Or.inl ⟨rfl, rfl⟩
  · exact Or.inr ⟨entry, hentry, henabled, hfile, own, hproblem, rfl⟩

/-! ### A reference without a license -/

/-- The license in a manifest, which has to be there. -/
def requiredLicense : Selector := ⟨"license", ⟨[.key "license"]⟩, true⟩

/-- One module, of which the license as a file and that in the manifest are compared. -/
def ownLicense : Group :=
  ⟨⟨some "a", [⟨"LICENSE", true, Binary64.ofInt 100, []⟩,
    ⟨"package.json", true, Binary64.ofInt 100, [requiredLicense]⟩]⟩, [bareModule "a"]⟩

/-- The module has a license, but its manifest has none. -/
def emptyManifest : Workspace where
  root := .folder [("a", .folder [("LICENSE", .file (.text "MIT")),
    ("package.json", .file (.text "\x7b\x7d"))])]
  current := []

/-- The module is the reference by its name. -/
theorem isReference_emptyManifest :
    IsReference Similarity.doubles emptyManifest ownLicense.members ownLicense (bareModule "a") :=
  rfl

/-- The license of the reference is in order, but its manifest is not. -/
theorem compareGroup_emptyManifest :
    IsReference Similarity.doubles emptyManifest ownLicense.members ownLicense (bareModule "a") ∧
    (itself "a/LICENSE").about (bareModule "a") ∈
      compareGroup Similarity.doubles emptyManifest ownLicense.members ownLicense ∧
    (refuse "a/package.json[license]"
      "Required content not found in reference module 'a'").about (bareModule "a") ∈
        compareGroup Similarity.doubles emptyManifest ownLicense.members ownLicense := by
  obtain ⟨-, hown⟩ := compareGroup_reference isReference_emptyManifest
  have hmember : ∃ member ∈ ownLicense.members, member.ref = (bareModule "a").ref :=
    ⟨_, List.mem_singleton_self _, rfl⟩
  have hmanifest : (emptyManifest.load ((bareModule "a").file "package.json")).toOption.any
      (fun document => !(Similarity.present (requiredLicense.query.select document)).isSome) =
        true := by decide +kernel
  obtain ⟨document, hload, hmissing⟩ := exists_ok_of_any hmanifest
  refine ⟨isReference_emptyManifest, ((hown _).mpr ⟨hmember, ?_⟩).1, ((hown _).mpr ⟨hmember, ?_⟩).1⟩
  · exact ⟨_, List.mem_cons_self, rfl, by decide +kernel, _, Or.inl ⟨_, .whole rfl, rfl⟩, rfl⟩
  · refine ⟨_, List.mem_cons_of_mem _ List.mem_cons_self, rfl, by decide +kernel, _,
      Or.inr (.missing hload (List.mem_singleton_self _) rfl ?_), rfl⟩
    simpa [HasPart] using hmissing

/-- Not all that is said of the reference is that it is the reference. -/
theorem not_only_itself_reference :
    ¬ ∀ (round : Similarity.Rounding) (workspace : Workspace) (modules : List RepoModule)
      (group : Group) (reference : RepoModule),
      IsReference round workspace modules group reference →
      ∀ finding ∈ compareGroup round workspace modules group,
        finding.module? = some reference.ref →
        finding.valid = true ∧ finding.message? = some "Reference file" := by
  intro h
  have hproblem : (refuse "a/package.json[license]"
      "Required content not found in reference module 'a'").about (bareModule "a") ∈
        compareGroup Similarity.doubles emptyManifest ownLicense.members ownLicense := by
    decide +kernel
  obtain ⟨hvalid, -⟩ := h _ _ _ _ _ isReference_emptyManifest _ hproblem rfl
  cases hvalid

end Conventions.SameContents
