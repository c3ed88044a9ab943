import Conventions.Proofs.Config.Failures
import Conventions.Proofs.Modules.Discovery
import Conventions.Proofs.Path.Parent
import Conventions.Proofs.Workspace.Markers

/-!
# Why modules cannot be discovered

Marker files are below the base directory, and so are the directories that hold them. So a
directory can be resolved unless a config file on the way to it cannot be used, and what is resolved
sets only rules that exist. Besides, discovery fails for globs of ignored files and of markers that
cannot be read, and for settings that their rules refuse.
-/

namespace Conventions

/-- A rule is found under its own name. -/
theorem Rule.name_of_ofName? {name : String} {rule : Rule} (h : Rule.ofName? name = some rule) :
    rule.name = name := by
  simpa using List.find?_some h

/-- A setting is refused for a reason, under the name of the rule. -/
theorem Rule.exists_reason_of_options_eq_error {rule : Rule} {setting : RuleSetting}
    {failure : Failure} (h : rule.options setting = .error failure) :
    ∃ reason, RuleOptions.ofSetting setting rule = .error reason ∧
      failure = .invalidRuleConfig rule.name reason := by
  unfold Rule.options at h
  split at h
  · cases h
  · next reason hreason =>
    cases h
    exact ⟨reason, hreason, rfl⟩

/-- Rules that exist can be bound, unless one of them is on under a setting that it refuses. -/
theorem exists_refused_of_bindRules_eq_error {source : RepoPath}
    {settings : List (String × RuleSetting)} {failure : Failure}
    (hexist : ∀ name ∈ Entries.keys settings, (Rule.ofName? name).isSome = true)
    (h : bindRules source settings = .error failure) :
    ∃ rule setting reason, (rule.name, setting) ∈ settings ∧ setting.isEnabled = true ∧
      RuleOptions.ofSetting setting rule = .error reason ∧
      failure = .invalidRuleConfig rule.name reason := by
  fun_induction bindRules source settings with
  | case1 => cases h
  | case2 name setting rest hon hnone =>
    have hsome := hexist name (List.mem_cons_self)
    rw [hnone] at hsome
    cases hsome
  | case3 name setting rest hon rule hrule ih =>
    rcases bind_eq_error_iff.mp h with hoptions | ⟨options, -, hmore⟩
    · obtain ⟨reason, hreason, rfl⟩ := Rule.exists_reason_of_options_eq_error hoptions
      refine ⟨rule, setting, reason, ?_, hon, hreason, rfl⟩
      rw [Rule.name_of_ofName? hrule]
      exact List.mem_cons_self
    · rcases bind_eq_error_iff.mp hmore with hrest | ⟨bindings, -, hnever⟩
      · obtain ⟨other, otherSetting, reason, hmem, hrefused⟩ :=
          ih (fun name hname => hexist name (List.mem_cons_of_mem _ hname)) hrest
        exact ⟨other, otherSetting, reason, List.mem_cons_of_mem _ hmem, hrefused⟩
      · cases hnever
  | case4 name setting rest hoff ih =>
    obtain ⟨other, otherSetting, reason, hmem, hrefused⟩ :=
      ih (fun name hname => hexist name (List.mem_cons_of_mem _ hname)) h
    exact ⟨other, otherSetting, reason, List.mem_cons_of_mem _ hmem, hrefused⟩

namespace RepoModule

variable {workspace : Workspace} {base : RepoPath} {config : Config} {configFile : String}

/-- A directory holds one of the marker files below a base directory. -/
def HoldsMarker (workspace : Workspace) (base : RepoPath) (config : Config) (folder : RepoPath) :
    Prop :=
  ∃ files file, markerFiles workspace base config = .ok files ∧ file ∈ files ∧
    file.parent? = some folder

/-- The causes for which discovery fails: an ignore pattern or a marker that is no glob, a config
file that cannot be used on the way to a directory with a marker file, or a rule that is on in such
a directory under a setting that it refuses. -/
inductive DiscoveryFault (workspace : Workspace) (base : RepoPath) (config : Config)
    (configFile : String) : Failure → Prop
  | ignorePattern {pattern : String} {error : Glob.Error} :
    pattern ∈ Ignored.patterns workspace base config.useGitignore →
    Ignored.globsOf pattern = .error error →
      DiscoveryFault workspace base config configFile (.glob error)
  | marker {marker : String} {error : Glob.Error} : marker ∈ config.markers →
    Glob.parse ("**/" ++ marker) = .error error →
      DiscoveryFault workspace base config configFile (.glob error)
  | badFile {folder : RepoPath} {visited : List Level} {level : Level} {failure : Failure} :
    HoldsMarker workspace base config folder → levels base folder = .ok visited →
    level ∈ visited → Resolution.BadFile workspace configFile level failure →
      DiscoveryFault workspace base config configFile failure
  | refusedSetting {folder : RepoPath} {resolution : Resolution} {rule : Rule}
    {setting : RuleSetting} {reason : String} : HoldsMarker workspace base config folder →
    Resolution.resolve workspace folder base configFile = .ok resolution →
    (rule.name, setting) ∈ resolution.config.rules → setting.isEnabled = true →
    RuleOptions.ofSetting setting rule = .error reason →
      DiscoveryFault workspace base config configFile (.invalidRuleConfig rule.name reason)

/-- Marker files are searched unless an ignore pattern or a marker is no glob. -/
theorem exists_glob_of_markerFiles_eq_error {failure : Failure}
    (h : markerFiles workspace base config = .error failure) :
    (∃ pattern ∈ Ignored.patterns workspace base config.useGitignore,
      ∃ error, Ignored.globsOf pattern = .error error ∧ failure = .glob error) ∨
    ∃ marker ∈ config.markers,
      ∃ error, Glob.parse ("**/" ++ marker) = .error error ∧ failure = .glob error := by
  rcases bind_eq_error_iff.mp h with hignored | ⟨ignored, -, hfind⟩
  · obtain ⟨error, hglobs, rfl⟩ := mapError_eq_error_iff.mp hignored
    rcases bind_eq_error_iff.mp hglobs with hpatterns | ⟨sets, -, hnever⟩
    · obtain ⟨pattern, hpattern, hown⟩ := exists_item_of_mapM_eq_error hpatterns
      exact Or.inl ⟨pattern, hpattern, error, hown, rfl⟩
    · cases hnever
  · obtain ⟨error, hsearch, rfl⟩ := mapError_eq_error_iff.mp hfind
    unfold Markers.find at hsearch
    split at hsearch
    · cases hsearch
    rcases bind_eq_error_iff.mp hsearch with hmarkers | ⟨wanted, -, hnever⟩
    · obtain ⟨marker, hmarker, hparse⟩ := exists_item_of_mapM_eq_error hmarkers
      exact Or.inr ⟨marker, hmarker, error, hparse, rfl⟩
    · split at hnever <;> cases hnever

/-- Where marker files are found, the markers are globs. -/
theorem exists_wanted_of_find {markers : List String} {ignored : List Glob.Pattern}
    {files : List RepoPath} (h : Markers.find workspace base markers ignored = .ok files) :
    ∃ wanted, Markers.globs markers = .ok wanted := by
  unfold Markers.find at h
  split at h
  · next hempty =>
    obtain rfl := List.isEmpty_iff.mp hempty
    exact ⟨[], rfl⟩
  · obtain ⟨wanted, hwanted, -⟩ := bind_eq_ok_iff.mp h
    exact ⟨wanted, hwanted⟩

/-- Names lead from a base directory to each of its marker files, at least one. -/
theorem exists_names_of_mem_markerFiles (htidy : workspace.root.Tidy)
    (hbase : workspace.isFolder base = true) {files : List RepoPath}
    (h : markerFiles workspace base config = .ok files) {file : RepoPath} (hfile : file ∈ files) :
    ∃ names, names ≠ [] ∧ (∀ name ∈ names, RepoPath.IsName name) ∧
      file = Markers.pathOf base names := by
  obtain ⟨ignored, hignored, hfind⟩ := markerFiles_eq_ok h
  obtain ⟨wanted, hwanted⟩ := exists_wanted_of_find hfind
  rw [Markers.find_eq_filtered workspace base hwanted hignored] at hfind
  unfold Workspace.isFolder at hbase
  split at hbase
  · next entries htree =>
    rw [htree] at hfind
    have hfiles : files = Markers.sortPaths
        ((Markers.filtered wanted ignored (.folder entries)).map (Markers.pathOf base)) :=
      (Except.ok.inj hfind).symm
    rw [hfiles, Markers.sortPaths, mem_sortBy] at hfile
    obtain ⟨names, hnames, rfl⟩ := List.mem_map.mp hfile
    have htreeTidy := Markers.tidy_of_find htidy htree
    obtain ⟨⟨content, hcontent⟩, -⟩ := (Markers.mem_filtered_iff htreeTidy).mp hnames
    refine ⟨names, ?_, htreeTidy.isName_of_contentAt? hcontent, rfl⟩
    rintro rfl
    cases hcontent
  · cases hbase

/-- The directories that hold marker files are in the base directory. -/
theorem contains_of_holdsMarker (htidy : workspace.root.Tidy)
    (hbase : workspace.isFolder base = true) {folder : RepoPath}
    (h : HoldsMarker workspace base config folder) : base.contains folder = true := by
  obtain ⟨files, file, hfiles, hfile, hparent⟩ := h
  obtain ⟨names, hne, hnames, rfl⟩ := exists_names_of_mem_markerFiles htidy hbase hfiles hfile
  have hfolder := RepoPath.components_of_parent? hparent
  have hmap : names.map Component.name ≠ [] := by simpa using hne
  rw [Markers.components_pathOf base hnames, List.dropLast_append_of_ne_nil hmap] at hfolder
  rw [RepoPath.contains_iff, hfolder]
  exact List.prefix_append _ _

/-- The candidate in a directory with a marker file can be loaded, unless there is a cause against
it. -/
theorem fault_of_load_eq_error (htidy : workspace.root.Tidy)
    (hbase : workspace.isFolder base = true) {folder : RepoPath}
    (hfolder : HoldsMarker workspace base config folder) {failure : Failure}
    (h : load workspace base configFile folder = .error failure) :
    DiscoveryFault workspace base config configFile failure := by
  rcases bind_eq_error_iff.mp h with hresolve | ⟨resolution, hresolution, hrest⟩
  · have hcontains := contains_of_holdsMarker htidy hbase hfolder
    obtain ⟨visited, level, hvisited, hlevel, hbad⟩ :=
      Resolution.exists_badFile_of_resolve_eq_error hcontains hresolve
    exact .badFile hfolder hvisited hlevel hbad
  · have hregistered := Resolution.registered_of_resolve hresolution
    rcases bind_eq_error_iff.mp hrest with hbind | ⟨bindings, -, hnever⟩
    · obtain ⟨rule, setting, reason, hmem, hon, hrefused, rfl⟩ :=
        exists_refused_of_bindRules_eq_error hregistered hbind
      exact .refusedSetting hfolder hresolution hmem hon hrefused
    · cases hnever

/-- Modules are discovered, unless there is a cause against it. -/
theorem fault_of_discover_eq_error (htidy : workspace.root.Tidy)
    (hbase : workspace.isFolder base = true) {failure : Failure}
    (h : discover workspace base config configFile = .error failure) :
    DiscoveryFault workspace base config configFile failure := by
  rcases bind_eq_error_iff.mp h with hmarkers | ⟨files, hfiles, hrest⟩
  · rcases exists_glob_of_markerFiles_eq_error hmarkers with
      ⟨pattern, hpattern, error, hglob, rfl⟩ | ⟨marker, hmarker, error, hglob, rfl⟩
    · exact .ignorePattern hpattern hglob
    · exact .marker hmarker hglob
  · rcases bind_eq_error_iff.mp hrest with hload | ⟨candidates, -, hnever⟩
    · obtain ⟨folder, hfolder, hfails⟩ := exists_item_of_mapM_eq_error hload
      obtain ⟨file, hfile, hparent⟩ := exists_parent_of_mem_foldersOf hfolder
      exact fault_of_load_eq_error htidy hbase ⟨files, file, hfiles, hfile, hparent⟩ hfails
    · cases hnever

/-- The failures that nothing below a base directory can cause: a directory outside of it, a
configuration without rules, a base directory that is not there, and a preset that extends
itself. -/
def Spurious : Failure → Prop
  | .outsideRoot .. | .missingRules .. | .baseDirNotFound .. | .presetCycle .. => True
  | _ => False

/-- No cause against discovery is reported as one that cannot be. -/
theorem DiscoveryFault.not_spurious {failure : Failure}
    (h : DiscoveryFault workspace base config configFile failure) : ¬ Spurious failure := by
  cases h with
  | ignorePattern => exact id
  | marker => exact id
  | badFile _ _ _ hbad =>
    cases hbad with
    | unreadable => exact id
    | malformed => exact id
    | misused _ _ hmisused => cases hmisused <;> exact id
  | refusedSetting => exact id

/-- The rules of a directory that is resolved can all be bound by their names. -/
theorem bindRules_ne_unknownRule {folder : RepoPath} {resolution : Resolution}
    (h : Resolution.resolve workspace folder base configFile = .ok resolution)
    (source : RepoPath) (name : String) (file : RepoPath) :
    bindRules source resolution.config.rules ≠ .error (.unknownRule name file) := by
  intro hbind
  obtain ⟨rule, setting, reason, -, -, -, hfailure⟩ :=
    exists_refused_of_bindRules_eq_error (Resolution.registered_of_resolve h) hbind
  cases hfailure

/-- Discovery below a directory, whatever configuration it goes by, fails for a glob that cannot be
read, for a config file that cannot be used on the way to a directory with a marker file, or for a
setting of such a directory that its rule refuses. It fails for nothing that the walk, the presets
and the checks of each level rule out, and the rules of a directory that is resolved are all known
when they are bound. -/
theorem discover_fails_for_cause (htidy : workspace.root.Tidy)
    (hbase : workspace.isFolder base = true) :
    (∀ failure, discover workspace base config configFile = .error failure →
      DiscoveryFault workspace base config configFile failure ∧ ¬ Spurious failure) ∧
    ∀ folder resolution source name file,
      Resolution.resolve workspace folder base configFile = .ok resolution →
      bindRules source resolution.config.rules ≠ .error (.unknownRule name file) := by
  refine ⟨fun failure hfails => ?_, fun folder resolution source name file hresolve => ?_⟩
  · have hfault := fault_of_discover_eq_error htidy hbase hfails
    exact ⟨hfault, hfault.not_spurious⟩
  · exact bindRules_ne_unknownRule hresolve source name file

/-- A repository in which the settings of one module name a rule that does not exist. -/
def unknownRuleBelow : Workspace where
  root := .folder [
    ("a", .folder [
      ("config", .file (.text "\x7b\"rules\": \x7b\"no-such-rule\": false\x7d\x7d")),
      ("p", .file (.text ""))]),
    ("b", .folder [("p", .file (.text ""))]),
    ("config", .file (.text
      "\x7b\"extends\": [], \"module-markers\": [\"p\"], \"rules\": \x7b\x7d\x7d"))]
  current := []

/-- A rule that does not exist is reported with the config file that sets it. -/
theorem discover_unknownRuleBelow : ∃ resolution failure,
    Resolution.resolve unknownRuleBelow ⟨"."⟩ ⟨"."⟩ "config" = .ok resolution ∧
      discover unknownRuleBelow ⟨"."⟩ resolution.config "config" = .error failure ∧
      failure = .unknownRule "no-such-rule" ⟨"./a/config"⟩ ∧
      DiscoveryFault unknownRuleBelow ⟨"."⟩ resolution.config "config" failure ∧
      ¬ Spurious failure := by
  have hrun : (match Resolution.resolve unknownRuleBelow ⟨"."⟩ ⟨"."⟩ "config" with
    | .ok resolution =>
      match discover unknownRuleBelow ⟨"."⟩ resolution.config "config" with
      | .ok _ => false
      | .error failure => decide (failure = .unknownRule "no-such-rule" ⟨"./a/config"⟩)
    | .error _ => false) = true := by decide +kernel
  split at hrun
  · next resolution hresolution =>
    split at hrun
    · cases hrun
    · next failure hfailure =>
      have htidy : unknownRuleBelow.root.Tidy := by decide +kernel
      have hbase : unknownRuleBelow.isFolder ⟨"."⟩ = true := by decide +kernel
      obtain ⟨hfault, hreal⟩ := (discover_fails_for_cause htidy hbase).1 failure hfailure
      exact ⟨resolution, failure, hresolution, hfailure, of_decide_eq_true hrun, hfault, hreal⟩
  · cases hrun

end RepoModule

end Conventions
