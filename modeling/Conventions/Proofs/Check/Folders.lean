import Conventions.Proofs.Check.Completion
import Conventions.Proofs.Workspace.Folders
import Conventions.Proofs.Workspace.Markers

/-!
# Folders that are refused

In strict mode a module may have the folders that its patterns match and those that lead to one of
them. All others are refused, but only if there is a folder that a pattern matches: of a module
without one, nothing is refused.
-/

namespace Conventions.Folders

/-- One of the patterns matches a folder. -/
def Matched (patterns : List CompiledGlob) (folder : List String) : Prop :=
  ∃ pattern ∈ patterns, isMatch pattern folder = true

/-- Among folders of which patterns match some, one is neither matched nor above a matched one. -/
structure IsExtra (patterns : List CompiledGlob) (folders : List (List String))
    (folder : List String) : Prop where
  mem : folder ∈ folders
  notMatched : ¬ Matched patterns folder
  notAbove : ∀ other ∈ folders, Matched patterns other → ¬ folder <+: other

instance (patterns : List CompiledGlob) (folder : List String) :
    Decidable (Matched patterns folder) :=
  inferInstanceAs (Decidable (∃ pattern ∈ patterns, _))

instance (patterns : List CompiledGlob) (folders : List (List String)) (folder : List String) :
    Decidable (IsExtra patterns folders folder) :=
  decidable_of_iff (folder ∈ folders ∧ ¬ Matched patterns folder ∧
      ∀ other ∈ folders, Matched patterns other → ¬ folder <+: other)
    ⟨fun ⟨hmem, hnot, habove⟩ => ⟨hmem, hnot, habove⟩,
      fun ⟨hmem, hnot, habove⟩ => ⟨hmem, hnot, habove⟩⟩

/-- The folders that are wanted are those that one of the patterns matches. -/
theorem anyMatch_iff_matched {patterns : List CompiledGlob} {folder : List String} :
    Glob.anyMatch (patterns.map (·.pattern)) (Markers.relativeText folder) = true ↔
      Matched patterns folder := by
  simp only [Glob.anyMatch_iff, List.mem_map, exists_exists_and_eq_and, Matched, isMatch]

/-- Nothing is refused if no folder is matched, and else all that is neither matched nor above what
is. -/
theorem mem_extra_iff {patterns : List CompiledGlob} {folders : List (List String)}
    {folder : List String} : folder ∈ extra patterns folders ↔
      (∃ other ∈ folders, Matched patterns other) ∧ IsExtra patterns folders folder := by
  have hwanted : ∀ other, other ∈ folders.filter (fun folder =>
      Glob.anyMatch (patterns.map (·.pattern)) (Markers.relativeText folder)) ↔
        other ∈ folders ∧ Matched patterns other := fun other => by
    rw [List.mem_filter, anyMatch_iff_matched]
  simp only [extra]
  split
  · next hempty =>
    have hnone : ¬ ∃ other ∈ folders, Matched patterns other := by
      rintro ⟨other, hother⟩
      have hmem := (hwanted other).mpr hother
      rw [List.isEmpty_iff.mp hempty] at hmem
      cases hmem
    simp [hnone]
  · next hsome =>
    have hfirst : ∃ other ∈ folders, Matched patterns other := by
      simpa [anyMatch_iff_matched] using hsome
    simp only [List.mem_filter, Bool.not_eq_true', List.any_eq_false, hwanted,
      List.isPrefixOf_iff_prefix]
    constructor
    · rintro ⟨hmem, hlead⟩
      refine ⟨hfirst, hmem, fun hmatched => ?_, fun other hother hmatched => ?_⟩
      · exact hlead folder ⟨hmem, hmatched⟩ (List.prefix_refl _)
      · exact hlead other ⟨hother, hmatched⟩
    · rintro ⟨-, hextra⟩
      exact ⟨hextra.mem, fun other ⟨hother, hmatched⟩ => hextra.notAbove other hother hmatched⟩

/-- The folders of a module are those that are found below its directory. -/
theorem mem_ofModule_iff {workspace : Workspace} (htidy : workspace.root.Tidy)
    {module : RepoModule} {folder : List String} : folder ∈ ofModule workspace module ↔
      ∃ tree, workspace.find module.path = .ok tree ∧ tree.HasFolder folder := by
  unfold ofModule
  cases hfind : workspace.find module.path with
  | error problem => simp
  | ok tree =>
    simp [FileTree.mem_foldersBelow [] folder tree (Markers.tidy_of_find htidy hfind)]

/-- Each folder of a module is found once. -/
theorem nodup_ofModule {workspace : Workspace} (htidy : workspace.root.Tidy)
    (module : RepoModule) : (ofModule workspace module).Nodup := by
  unfold ofModule
  cases hfind : workspace.find module.path with
  | error problem => exact List.nodup_nil
  | ok tree => exact FileTree.nodup_foldersBelow [] tree (Markers.tidy_of_find htidy hfind)

/-- No folder is refused twice. -/
theorem nodup_extra {folders : List (List String)} (h : folders.Nodup)
    (patterns : List CompiledGlob) : (extra patterns folders).Nodup := by
  simp only [extra]
  split
  · exact List.nodup_nil
  · exact h.filter _

/-- A finding for each pattern, and one for each of the folders that are refused. -/
def findingsFor (workspace : Workspace) (module : RepoModule) (patterns : List CompiledGlob)
    (refused : List (List String)) : List Finding :=
  patterns.map (checkPattern module (ofModule workspace module)) ++ refused.map (refuse module)

/-- In strict mode, there is a finding for each pattern and one for each folder of the module that
is refused. If a pattern matches any folder, the refused folders are those that are neither matched
nor above a matched one, and otherwise there are none. -/
theorem check_strict_refuses {workspace : Workspace} {module : RepoModule}
    {required : List GlobText} (htidy : workspace.root.Tidy) (hbound : module.Bound)
    (hoptions : module.options? .folderStructure = some (.folders required true))
    (hrequired : required ≠ []) :
    ∃ patterns refused, compileGlobs id required = .ok patterns ∧
      check workspace module = .ok (findingsFor workspace module patterns refused) ∧
      refused.Nodup ∧
      (∀ folder, folder ∈ refused ↔
        (∃ other ∈ ofModule workspace module, Matched patterns other) ∧
          IsExtra patterns (ofModule workspace module) folder) ∧
      ∀ folder, folder ∈ ofModule workspace module ↔
        ∃ tree, workspace.find module.path = .ok tree ∧ tree.HasFolder folder := by
  obtain ⟨setting, hsetting⟩ := hbound.exists_setting hoptions
  obtain ⟨patterns, hpatterns⟩ := RuleOptions.exists_compileGlobs_of_folders hsetting
  refine ⟨patterns, extra patterns (ofModule workspace module), hpatterns, ?_,
    nodup_extra (nodup_ofModule htidy module) patterns, fun _ => mem_extra_iff,
    fun _ => mem_ofModule_iff htidy⟩
  have hsome : required.isEmpty = false := by simpa using hrequired
  simp only [check, hoptions, hsome, Bool.false_eq_true, if_false, if_true]
  exact bind_eq_ok_iff.mpr ⟨patterns, mapError_eq_ok_iff.mpr hpatterns, rfl⟩

/-- A repository with one module, whose folders are checked strictly. -/
def withFolders (patterns : List String) (entries : List (String × FileTree)) : Workspace where
  root := .folder [
    ("config", .file (.text ("\x7b\"extends\": [], \"rules\": \x7b\"module-folder-structure\": " ++
      "\x7b\"strict\": true, \"folders\": [\"" ++ "\", \"".intercalate patterns ++
      "\"]\x7d\x7d\x7d"))),
    ("m", .folder entries)]
  current := []

/-- Whether options ask strictly for the folders that patterns match. -/
def asksStrictlyFor (patterns : List String) : RuleOptions → Bool
  | .folders required true => decide (required = patterns.map GlobText.mk)
  | _ => false

/-- Only options of the rule ask for folders. -/
theorem asksStrictlyFor_iff {patterns : List String} {options : RuleOptions} :
    asksStrictlyFor patterns options = true ↔
      options = .folders (patterns.map GlobText.mk) true := by
  unfold asksStrictlyFor
  split
  · simp
  · next hother =>
    simp only [Bool.false_eq_true, false_iff]
    rintro rfl
    exact hother _ rfl

/-- The module of the repository is loaded, with the options that its setting stands for. -/
def IsLoaded (patterns : List String) (entries : List (String × FileTree))
    (module : RepoModule) : Prop :=
  RepoModule.load (withFolders patterns entries) ⟨"."⟩ "config" ⟨"./m"⟩ = .ok module ∧
    module.options? .folderStructure = some (.folders (patterns.map GlobText.mk) true)

/-- A fact about the module of the repository can be found out by loading it. -/
theorem exists_isLoaded {patterns : List String} {entries : List (String × FileTree)}
    {test : RepoModule → Bool}
    (h : (RepoModule.load (withFolders patterns entries) ⟨"."⟩ "config" ⟨"./m"⟩).toOption.any
      (fun module => (module.options? .folderStructure).any (asksStrictlyFor patterns) &&
        test module) = true) :
    ∃ module, IsLoaded patterns entries module ∧ test module = true := by
  obtain ⟨module, hload, hmodule⟩ := exists_ok_of_any h
  obtain ⟨hoptions, htest⟩ := Bool.and_eq_true_iff.mp hmodule
  obtain ⟨options, hsome, hasks⟩ := Option.any_eq_true _ _ |>.mp hoptions
  exact ⟨module, ⟨hload, hsome.trans (congrArg some (asksStrictlyFor_iff.mp hasks))⟩, htest⟩

/-- A module with two folders that are matched or lead to one, and two that are refused. -/
def nestedFolders : List (String × FileTree) :=
  [("docs", .folder []),
    ("src", .folder [("libs", .folder [("a", .file (.text ""))]), ("utils", .folder [])])]

/-- Folders beside those that a pattern asks for are refused. -/
theorem refuses_nestedFolders : ∃ module patterns refused,
    IsLoaded ["src/**/utils"] nestedFolders module ∧
    check (withFolders ["src/**/utils"] nestedFolders) module =
      .ok (findingsFor (withFolders ["src/**/utils"] nestedFolders) module patterns refused) ∧
    ∀ folder, folder ∈ refused ↔ folder = ["docs"] ∨ folder = ["src", "libs"] := by
  have hrun : (RepoModule.load (withFolders ["src/**/utils"] nestedFolders) ⟨"."⟩ "config"
      ⟨"./m"⟩).toOption.any (fun module =>
        (module.options? .folderStructure).any (asksStrictlyFor ["src/**/utils"]) &&
        (compileGlobs id [⟨"src/**/utils"⟩]).toOption.any fun patterns =>
          extra patterns (ofModule (withFolders ["src/**/utils"] nestedFolders) module) ==
            [["docs"], ["src", "libs"]]) = true := by decide +kernel
  have htidy : (withFolders ["src/**/utils"] nestedFolders).root.Tidy := by decide +kernel
  obtain ⟨module, hloaded, hextra⟩ := exists_isLoaded hrun
  obtain ⟨patterns, refused, hpatterns, hcheck, -, hrefused, -⟩ :=
    check_strict_refuses htidy (RepoModule.bound_of_load hloaded.1) hloaded.2 (by simp)
  obtain ⟨same, hsame, hresult⟩ := exists_ok_of_any hextra
  cases hpatterns.symm.trans hsame
  refine ⟨module, patterns, refused, hloaded, hcheck, fun folder => ?_⟩
  rw [hrefused, ← mem_extra_iff, beq_iff_eq.mp hresult]
  simp

/-- A folder of the module is refused although it is matched or above a matched one, or it is
neither and not refused. -/
def Misjudged (patterns : List String) (entries : List (String × FileTree))
    (folder : List String) : Prop :=
  ∃ module, IsLoaded patterns entries module ∧
    ∃ compiled findings, compileGlobs id (patterns.map GlobText.mk) = .ok compiled ∧
      check (withFolders patterns entries) module = .ok findings ∧
      ¬ (refuse module folder ∈ findings ↔
        IsExtra compiled (ofModule (withFolders patterns entries) module) folder)

/-- A folder is not refused where no pattern matches any. -/
theorem misjudged_withoutMatch : Misjudged ["src"] [("docs", .folder [])] ["docs"] := by
  have hrun : (RepoModule.load (withFolders ["src"] [("docs", .folder [])]) ⟨"."⟩ "config"
      ⟨"./m"⟩).toOption.any (fun module =>
        (module.options? .folderStructure).any (asksStrictlyFor ["src"]) &&
        (compileGlobs id [⟨"src"⟩]).toOption.any fun compiled =>
          (check (withFolders ["src"] [("docs", .folder [])]) module).toOption.any fun findings =>
            decide ¬ (refuse module ["docs"] ∈ findings ↔ IsExtra compiled
              (ofModule (withFolders ["src"] [("docs", .folder [])]) module) ["docs"])) = true := by
    decide +kernel
  obtain ⟨module, hloaded, hcompiled⟩ := exists_isLoaded hrun
  obtain ⟨compiled, hcompile, hchecked⟩ := exists_ok_of_any hcompiled
  obtain ⟨findings, hcheck, hfolder⟩ := exists_ok_of_any hchecked
  exact ⟨module, hloaded, compiled, findings, hcompile, hcheck, of_decide_eq_true hfolder⟩

end Conventions.Folders
