import Conventions.Check.Workflows
import Conventions.Proofs.Modules.Discovery

/-!
# The module that a workflow file belongs to

The names of several modules can stand at the start of the name of a workflow file. The file then
belongs to the last of these modules. They are in the order of their names, and of two texts at
the start of a third one the shorter comes first, so no other of them has a longer name.
-/

namespace Conventions

/-- A list comes before those that go on where it ends. -/
theorem listBefore_of_prefix {α : Type} [DecidableEq α] (before : α → α → Bool)
    {start whole : List α} (h : start <+: whole) (hlength : start.length < whole.length) :
    listBefore before start whole = true := by
  obtain ⟨rest, rfl⟩ := h
  induction start with
  | nil =>
    obtain ⟨first, more, rfl⟩ := List.exists_cons_of_length_pos hlength
    rfl
  | cons first start ih =>
    rw [List.cons_append, listBefore, if_pos rfl]
    exact ih (Nat.lt_of_succ_lt_succ hlength)

/-- A text starts with another if the characters of this one come first in it. -/
theorem startsWith_iff {text start : String} :
    Text.startsWith text start = true ↔ start.toList <+: text.toList :=
  List.isPrefixOf_iff_prefix

/-- Of two texts at the start of a third one, the shorter comes before the other. -/
theorem textBefore_of_startsWith {text a b : String} (ha : Text.startsWith text a = true)
    (hb : Text.startsWith text b = true) (hlength : a.length < b.length) :
    textBefore a b = true := by
  rw [← String.length_toList, ← String.length_toList] at hlength
  have hprefix : a.toList <+: b.toList :=
    List.prefix_of_prefix_length_le (startsWith_iff.mp ha) (startsWith_iff.mp hb)
      (Nat.le_of_lt hlength)
  exact listBefore_of_prefix _ hprefix hlength

namespace Workflows

/-- A module has the longest one among the names of modules with which the name of a file starts. -/
structure IsLongestOwner (modules : List RepoModule) (file : String) (owner : RepoModule) :
    Prop where
  mem : owner ∈ modules
  starts : Text.startsWith file owner.name = true
  longest : ∀ other ∈ modules, Text.startsWith file other.name = true →
    other.name.length ≤ owner.name.length

/-- A module whose name is at the start of a text and shorter than another such name comes before
the module with that one. -/
theorem before_of_startsWith {file : String} {a b : RepoModule}
    (ha : Text.startsWith file a.name = true) (hb : Text.startsWith file b.name = true)
    (hlength : a.name.length < b.name.length) : a.before b = true := by
  have hne : a.name ≠ b.name := fun heq => by
    rw [heq] at hlength
    exact Nat.lt_irrefl _ hlength
  simp only [RepoModule.before, pairBefore, if_neg hne]
  exact textBefore_of_startsWith ha hb hlength

/-- Of modules in order, the last one whose name is at the start of the name of a file has the
longest of these names. -/
theorem isLongestOwner_of_getLast? {modules : List RepoModule} {file : String} {owner : RepoModule}
    (hsorted : modules.Pairwise fun a b => b.before a = false)
    (h : (owners modules file).getLast? = some owner) : IsLongestOwner modules file owner := by
  obtain ⟨hmem, hstarts⟩ := List.mem_filter.mp (List.mem_of_getLast? h)
  refine ⟨hmem, hstarts, fun other hother hstart => ?_⟩
  -- Nothing that owns the file comes behind its last owner.
  have hlast : owner.before other = false := by
    obtain ⟨front, hfront⟩ := List.getLast?_eq_some_iff.mp h
    have hmember : other ∈ front ++ [owner] := by
      rw [← hfront]
      exact List.mem_filter.mpr ⟨hother, hstart⟩
    have hpairs : (front ++ [owner]).Pairwise fun a b => b.before a = false := by
      rw [← hfront]
      exact hsorted.filter _
    rcases List.mem_append.mp hmember with hearlier | hself
    · exact (List.pairwise_append.mp hpairs).2.2 other hearlier owner (List.mem_singleton_self _)
    · rw [List.mem_singleton.mp hself]
      exact RepoModule.isOrder_before.irrefl owner
  by_contra hlonger
  rw [before_of_startsWith hstarts hstart (by omega)] at hlast
  cases hlast

/-- Discovered modules are in order. -/
theorem pairwise_of_discover {workspace : Workspace} {base : RepoPath} {config : Config}
    {configFile : String} {modules : List RepoModule}
    (h : RepoModule.discover workspace base config configFile = .ok modules) :
    modules.Pairwise fun a b => b.before a = false := by
  obtain ⟨files, candidates, -, -, rfl⟩ := RepoModule.discover_eq_ok h
  exact RepoModule.isOrder_before.pairwise_sortBy _

/-- A file that is in order belongs to the last of the modules whose names it starts with. -/
theorem owner_of_valid_checkFile {directory : RepoPath} {modules : List RepoModule}
    {suffixes : List String} {file : String}
    (h : (checkFile directory modules suffixes file).valid = true) :
    ∃ owner, (owners modules file).getLast? = some owner ∧
      (checkFile directory modules suffixes file).module? = some owner.ref := by
  unfold checkFile at h ⊢
  cases howner : (owners modules file).getLast? with
  | none =>
    rw [howner] at h
    cases h
  | some owner =>
    rw [howner] at h
    refine ⟨owner, rfl, ?_⟩
    by_cases hsuffix : suffixes.any (hasSuffix file) = true
    · simp only [hsuffix, if_true, Finding.about]
    · simp only [hsuffix, Bool.false_eq_true, if_false, Finding.of] at h

/-- What is found about a file has its path. -/
theorem resource_checkFile (directory : RepoPath) (modules : List RepoModule)
    (suffixes : List String) (file : String) :
    (checkFile directory modules suffixes file).resource = (directory.join file).text := by
  unfold checkFile
  split
  · rfl
  · split <;> rfl

/-- Whatever is found about workflow files is found by a check of one of them. -/
theorem exists_file_of_mem_check {scope : Scope} {workspace : Workspace} {findings : List Finding}
    {finding : Finding} (h : check scope workspace = .ok findings) (hfinding : finding ∈ findings) :
    ∃ suffixes, ∃ file ∈ filesIn workspace (folder scope.base),
      finding = checkFile (folder scope.base) scope.modules suffixes file := by
  unfold check at h
  split at h
  · cases h
    cases hfinding
  · obtain ⟨options, -, h⟩ := bind_eq_ok_iff.mp h
    split at h
    · next required suffixes =>
      cases h
      obtain ⟨file, hfile, rfl⟩ := List.mem_map.mp hfinding
      exact ⟨suffixes, file, hfile, rfl⟩
    · cases h
      cases hfinding

/-- Where modules are those that are discovered, a workflow file that is accepted belongs to one of
them with the longest name that the name of the file starts with. -/
theorem accepted_has_longestOwner {workspace current : Workspace} {base : RepoPath}
    {config : Config} {configFile : String} {scope : Scope} {findings : List Finding}
    {finding : Finding}
    (hmodules : RepoModule.discover workspace base config configFile = .ok scope.modules)
    (hcheck : check scope current = .ok findings) (hfinding : finding ∈ findings)
    (hvalid : finding.valid = true) :
    ∃ file ∈ filesIn current (folder scope.base),
      finding.resource = ((folder scope.base).join file).text ∧
      ∃ owner, finding.module? = some owner.ref ∧ IsLongestOwner scope.modules file owner := by
  obtain ⟨suffixes, file, hfile, rfl⟩ := exists_file_of_mem_check hcheck hfinding
  obtain ⟨owner, hlast, hmodule⟩ := owner_of_valid_checkFile hvalid
  refine ⟨file, hfile, resource_checkFile _ _ _ file, owner, hmodule, ?_⟩
  exact isLongestOwner_of_getLast? (pairwise_of_discover hmodules) hlast

/-- A repository with modules of which one's name starts with that of another, and with a workflow
file whose name starts with both. -/
def nestedNames : Workspace where
  root := .folder [
    (".github", .folder [("workflows", .folder [("app-web-ci.yml", .file (.text "on: push"))])]),
    ("app", .folder [("p", .file (.text ""))]),
    ("app-web", .folder [("p", .file (.text ""))]),
    ("app-web-old", .folder [("p", .file (.text ""))]),
    ("config", .file (.text "\x7b\"extends\": [], \"rules\": \x7b\x7d\x7d"))]
  current := []

/-- The rule on names of workflow files is on, and modules are marked by a file. -/
def markedConfig : Config where
  markers? := some ["p"]
  rules? := some [(Rule.workflowNames.name, .enabled)]

/-- What the rules see of the repository with certain modules. -/
def nestedScope (modules : List RepoModule) : Scope := ⟨⟨"."⟩, markedConfig, modules, false⟩

/-- The workflow file belongs to the module with the longer name. -/
theorem longestOwner_nestedNames : ∃ modules finding,
    RepoModule.discover nestedNames ⟨"."⟩ markedConfig "config" = .ok modules ∧
    check (nestedScope modules) nestedNames = .ok [finding] ∧ finding.valid = true ∧
    finding.module? = some ⟨"app-web", ⟨"./app-web"⟩⟩ ∧
    ∃ file ∈ filesIn nestedNames (folder ⟨"."⟩),
      finding.resource = ((folder ⟨"."⟩).join file).text ∧
      ∃ owner, finding.module? = some owner.ref ∧ IsLongestOwner modules file owner := by
  have hrun : (RepoModule.discover nestedNames ⟨"."⟩ markedConfig "config").toOption.any
      (fun modules => (check (nestedScope modules) nestedNames).toOption.any fun findings =>
        findings.length == 1 && findings.all fun finding =>
          finding.valid && finding.module? == some ⟨"app-web", ⟨"./app-web"⟩⟩) = true := by
    decide +kernel
  obtain ⟨modules, hmodules, hchecked⟩ := exists_ok_of_any hrun
  obtain ⟨findings, hcheck, hfindings⟩ := exists_ok_of_any hchecked
  obtain ⟨hlength, hall⟩ := Bool.and_eq_true_iff.mp hfindings
  obtain ⟨finding, rfl⟩ := List.length_eq_one_iff.mp (eq_of_beq hlength)
  have hmem := List.mem_singleton_self finding
  obtain ⟨hvalid, hmodule⟩ := Bool.and_eq_true_iff.mp (List.all_eq_true.mp hall finding hmem)
  refine ⟨modules, finding, hmodules, hcheck, hvalid, by simpa using hmodule, ?_⟩
  have hscope : RepoModule.discover nestedNames ⟨"."⟩ markedConfig "config" =
      .ok (nestedScope modules).modules := hmodules
  exact accepted_has_longestOwner hscope hcheck hmem hvalid

end Workflows

end Conventions
