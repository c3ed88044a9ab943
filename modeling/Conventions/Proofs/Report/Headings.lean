import Conventions.Proofs.Entries
import Conventions.Proofs.Modules.Discovery
import Conventions.Proofs.Path.Parent
import Conventions.Proofs.Text.Erase
import Conventions.Proofs.Workspace.Markers
import Conventions.Report.Text

/-!
# Headings of a report

A report has a section for each resource that it lists, headed by the resource. A heading is meant
to be relative to the current directory, which is left out wherever it occurs in the text of the
resource. So it is right if the directory occurs at most once, where the text of a resource below
it starts. Below the root directory it is never right.
-/

namespace Conventions

/-- In entries that ascend by key, each is found under its key. -/
theorem Entries.Ascending.find?_of_mem {α : Type} {key : String} {value : α} {entries : Entries α}
    (h : entries.Ascending) (hmem : (key, value) ∈ entries) : entries.find? key = some value := by
  induction entries with
  | nil => cases hmem
  | cons entry rest ih =>
    obtain ⟨k, v⟩ := entry
    rcases List.mem_cons.mp hmem with heq | hrest
    · cases heq
      rw [Entries.find?, if_pos rfl]
    · have hfound := ih (List.pairwise_cons.mp h).2 hrest
      have hne : k ≠ key := by
        rintro rfl
        rw [h.find?_tail] at hfound
        cases hfound
      rwa [Entries.find?, if_neg hne]

namespace Report

/-! ### Sections -/

/-- One more finding joins the group of its resource. -/
theorem byResource_append (findings : List Finding) (finding : Finding) :
    byResource (findings ++ [finding]) = Entries.insertSorted finding.resource
      (((byResource findings).find? finding.resource).getD [] ++ [finding])
      (byResource findings) := by
  simp [byResource]

/-- The groups are in ascending order of the resources. -/
theorem ascending_byResource (findings : List Finding) : (byResource findings).Ascending := by
  induction findings using List.reverseRecOn with
  | nil => exact List.Pairwise.nil
  | append_singleton findings finding ih =>
    rw [byResource_append]
    exact ih.insertSorted _ _

/-- The findings about a resource, in the order in which they were found. -/
def about (resource : String) (findings : List Finding) : List Finding :=
  findings.filter fun finding => finding.resource = resource

/-- Under each resource there are the findings about it, if there are any. -/
theorem find?_byResource (findings : List Finding) (resource : String) :
    (byResource findings).find? resource =
      if about resource findings = [] then none else some (about resource findings) := by
  induction findings using List.reverseRecOn with
  | nil => rfl
  | append_singleton findings finding ih =>
    rw [byResource_append, Entries.find?_insertSorted]
    by_cases heq : finding.resource = resource
    · subst heq
      have habout : about finding.resource (findings ++ [finding]) =
          about finding.resource findings ++ [finding] := by simp [about]
      rw [if_pos rfl, habout, if_neg (by simp), ih]
      split
      · next hnone => simp [hnone]
      · rfl
    · have habout : about resource (findings ++ [finding]) = about resource findings := by
        simp [about, heq]
      rw [if_neg heq, habout, ih]

/-- The groups are the findings about a resource for each resource of a finding. -/
theorem mem_byResource_iff {findings group : List Finding} {resource : String} :
    (resource, group) ∈ byResource findings ↔ group = about resource findings ∧ group ≠ [] := by
  have hfind : (resource, group) ∈ byResource findings ↔
      (byResource findings).find? resource = some group :=
    ⟨(ascending_byResource findings).find?_of_mem, Entries.mem_of_find?⟩
  rw [hfind, find?_byResource]
  grind

/-- The groups that a report lists, in its order. -/
def listed (style : Style) (findings : List Finding) : Entries (List Finding) :=
  (if style.verbose then (byResource findings).filter fun group => group.2.all (·.valid) else []) ++
    (byResource findings).filter fun group => !group.2.all (·.valid)

/-- What stands in a section below its heading. -/
def findingLines (style : Style) (group : List Finding) : List String :=
  (if style.verbose then (group.filter (·.valid)).map (successLine style) else []) ++
    (group.filter (!·.valid)).flatMap (problemLines style) ++ [""]

/-- If everything is in order, a verbose section has a line for each finding. -/
theorem findingLines_of_valid {style : Style} (hverbose : style.verbose = true)
    {group : List Finding} (h : group.all (·.valid) = true) :
    findingLines style group = group.map (successLine style) ++ [""] := by
  have hall : ∀ finding ∈ group, finding.valid = true := List.all_eq_true.mp h
  have hvalid : group.filter (·.valid) = group := List.filter_eq_self.mpr hall
  have hinvalid : group.filter (!·.valid) = [] := List.filter_eq_nil_iff.mpr (by simpa using hall)
  rw [findingLines, if_pos hverbose, hvalid, hinvalid, List.flatMap_nil, List.append_nil]

/-- A report consists of its sections, each with a heading, and of the lines that count. -/
theorem textLines_eq (style : Style) (fixed : Nat) (findings : List Finding) :
    textLines style fixed findings =
      "" :: (listed style findings).flatMap
        (fun group => style.shown group.1 :: findingLines style group.2) ++
      summaryLines style fixed findings := by
  unfold textLines listed
  by_cases hverbose : style.verbose = true
  · have hclean : ((byResource findings).filter fun group => group.2.all (·.valid)).flatMap
        (cleanLines style) = ((byResource findings).filter fun group =>
          group.2.all (·.valid)).flatMap
            (fun group => style.shown group.1 :: findingLines style group.2) := by
      refine List.flatMap_congr fun group hgroup => ?_
      rw [cleanLines, findingLines_of_valid hverbose (List.mem_filter.mp hgroup).2]
    simp only [if_pos hverbose, hclean, List.flatMap_append, List.cons_append, List.nil_append,
      List.append_assoc]
    rfl
  · simp only [if_neg hverbose, List.append_nil, List.nil_append]
    rfl

/-- Every resource is listed that has a problem, and in a verbose report every resource, with the
findings about it. -/
theorem mem_listed_iff {style : Style} {findings group : List Finding} {resource : String} :
    (resource, group) ∈ listed style findings ↔ group = about resource findings ∧ group ≠ [] ∧
      (style.verbose = true ∨ ∃ finding ∈ group, finding.valid = false) := by
  rw [← and_assoc, ← mem_byResource_iff, listed, List.mem_append, List.mem_filter]
  have hfaulty : (!group.all (·.valid)) = true ↔ ∃ finding ∈ group, finding.valid = false := by
    simp
  rw [hfaulty]
  by_cases hverbose : style.verbose = true
  · have hclean : group.all (·.valid) = true ↔ ¬ ∃ finding ∈ group, finding.valid = false := by
      simp
    rw [if_pos hverbose, List.mem_filter, hclean]
    tauto
  · simp [hverbose]

/-- No resource is listed twice. -/
theorem nodup_listed (style : Style) (findings : List Finding) :
    (listed style findings).keys.Nodup := by
  have hgroups : (byResource findings).Pairwise fun a b => a.1 ≠ b.1 := by
    refine (ascending_byResource findings).imp ?_
    rintro ⟨key, first⟩ ⟨other, second⟩ hbefore rfl
    rw [isLinear_textBefore.irrefl] at hbefore
    cases hbefore
  refine List.pairwise_map.mpr (List.pairwise_append.mpr ⟨?_, hgroups.filter _, ?_⟩)
  · split
    · exact hgroups.filter _
    · exact List.Pairwise.nil
  · -- Whether a resource comes first depends on the findings about it.
    rintro ⟨key, first⟩ hfirst ⟨other, second⟩ hsecond rfl
    split at hfirst
    · obtain ⟨hmem, hvalid⟩ := List.mem_filter.mp hfirst
      obtain ⟨hmem', hinvalid⟩ := List.mem_filter.mp hsecond
      obtain ⟨rfl, -⟩ := mem_byResource_iff.mp hmem
      obtain ⟨rfl, -⟩ := mem_byResource_iff.mp hmem'
      simp [hvalid] at hinvalid
    · cases hfirst

/-! ### Headings -/

/-- What the text of a path starts with if it is written as one below the current directory: the
directory with a separator behind it. The root is its own separator. -/
def start (workspace : Workspace) : String :=
  if workspace.current = [] then "/" else workspace.currentPath.text ++ "/"

/-- A resource lies below the current directory and is written as such, with a text behind the
directory and a separator. -/
structure IsBelow (workspace : Workspace) (resource rest : String) : Prop where
  holds : workspace.currentPath.holds ⟨resource⟩ = true
  text : resource = start workspace ++ rest

instance (workspace : Workspace) (resource rest : String) :
    Decidable (IsBelow workspace resource rest) :=
  decidable_of_iff (workspace.currentPath.holds ⟨resource⟩ = true ∧
      resource = start workspace ++ rest)
    ⟨fun ⟨hholds, htext⟩ => ⟨hholds, htext⟩, fun ⟨hholds, htext⟩ => ⟨hholds, htext⟩⟩

/-- The path along which names lead from the root has the root and the names as its components. -/
theorem components_fromRoot {names : List String} (h : ∀ name ∈ names, RepoPath.IsName name) :
    RepoPath.components ⟨"/" ++ Markers.relativeText names⟩ = .root :: names.map .name := by
  by_cases hempty : names = []
  · subst hempty
    decide
  · have htext : "/" ++ Markers.relativeText names = "/".intercalate ("" :: names) := by
      rw [String.intercalate_cons_of_ne_nil hempty, String.empty_append, Markers.relativeText]
    have hpieces : ∀ part ∈ "" :: names, '/' ∉ part.toList :=
      List.forall_mem_cons.mpr ⟨by simp, fun name hname => (h name hname).noSeparator⟩
    rw [htext, RepoPath.components_intercalate hpieces (by simp [hempty])]
    have hnames : names.filterMap RepoPath.innerComponent? = names.map .name := by
      rw [← List.filterMap_eq_map]
      exact List.filterMap_congr fun name hname => (h name hname).innerComponent?
    rw [hnames]
    rfl

/-- What is reached from the current directory along names lies below it, with the names behind
it. -/
theorem isBelow_relativeText {workspace : Workspace}
    (hcurrent : ∀ name ∈ workspace.current, RepoPath.IsName name) {more : List String}
    (hne : more ≠ []) (hmore : ∀ name ∈ more, RepoPath.IsName name) :
    IsBelow workspace ("/" ++ Markers.relativeText (workspace.current ++ more))
      (Markers.relativeText more) := by
  refine ⟨?_, ?_⟩
  · have hpath := components_fromRoot hcurrent
    have hresource := components_fromRoot (List.forall_mem_append.mpr ⟨hcurrent, hmore⟩)
    rw [RepoPath.holds_iff, RepoPath.contains_iff, hresource]
    unfold Workspace.currentPath
    unfold Markers.relativeText at hpath
    rw [hpath]
    constructor
    · simp
    · have hlength := List.length_pos_iff.mpr hne
      simp
      omega
  · by_cases hroot : workspace.current = []
    · simp [start, hroot]
    · rw [start, if_neg hroot, Markers.relativeText_append hroot hne]
      simp [Workspace.currentPath, Markers.relativeText, String.append_assoc]

section

variable (directory : RepoPath) (verbose : Bool)

/-- What is left out of a text for a directory is not empty. -/
theorem hidden_ne_empty : (Style.relativeTo directory verbose).hidden ≠ "" := by
  simp [Style.relativeTo]

/-- Exactly those texts are shown as they are in which the directory with a separator behind it does
not occur. -/
theorem shown_eq_self_iff (text : String) :
    (Style.relativeTo directory verbose).shown text = text ↔
      ¬ (Style.relativeTo directory verbose).hidden.toList <:+: text.toList :=
  Text.erase_eq_self_iff (hidden_ne_empty directory verbose)

/-- Below the root a text is never shown as what is behind the root: only two characters at a time
are left out, the root and a separator. -/
theorem shown_root_ne (rest : String) :
    (Style.relativeTo ⟨"/"⟩ verbose).shown ("/" ++ rest) ≠ rest := by
  intro hshown
  have hleft := congrArg String.toList hshown
  have hhidden : (Style.relativeTo ⟨"/"⟩ verbose).hidden.toList = ['/', '/'] := by
    simp [Style.relativeTo]
  rw [Style.shown, Text.erase, String.toList_ofList, hhidden] at hleft
  obtain ⟨count, hcount, -⟩ :=
    Text.exists_length_eraseFrom (List.cons_ne_nil '/' ['/']) ("/" ++ rest).toList
  rw [hleft, String.toList_append] at hcount
  simp at hcount
  omega

end

/-- A resource below the current directory is headed by what is behind the directory and a separator
unless that is the root or what is left out occurs in it once more. -/
theorem shown_eq_rest_iff {workspace : Workspace} {resource rest : String}
    (h : IsBelow workspace resource rest) (verbose : Bool) :
    (Style.relativeTo workspace.currentPath verbose).shown resource = rest ↔
      workspace.current ≠ [] ∧
        ¬ (Style.relativeTo workspace.currentPath verbose).hidden.toList <:+: rest.toList := by
  obtain ⟨-, rfl⟩ := h
  by_cases hroot : workspace.current = []
  · have hpath : workspace.currentPath = ⟨"/"⟩ := by
      rw [Workspace.currentPath, hroot]
      rfl
    simp [start, hroot, hpath, shown_root_ne]
  · rw [start, if_neg hroot, ← shown_eq_self_iff]
    have hstart : (Style.relativeTo workspace.currentPath verbose).shown
        (workspace.currentPath.text ++ "/" ++ rest) =
          (Style.relativeTo workspace.currentPath verbose).shown rest :=
      Text.erase_append (hidden_ne_empty workspace.currentPath verbose) rest
    simp [hstart, hroot]

/-- A report has a section for each resource with a problem, and if it is verbose for each resource,
with one heading. The heading is the text of the resource without the current directory and the
separator behind it if the resource lies below that directory, and else the whole text, as long as
the current directory is not the root and the directory with a separator does not occur anywhere
else in the text. What is reached from the current directory along names lies below it. -/
theorem headings_relativeTo {workspace : Workspace}
    (hcurrent : ∀ name ∈ workspace.current, RepoPath.IsName name) (verbose : Bool) (fixed : Nat)
    (findings : List Finding) :
    let style := Style.relativeTo workspace.currentPath verbose
    textLines style fixed findings =
        "" :: (listed style findings).flatMap
          (fun group => style.shown group.1 :: findingLines style group.2) ++
        summaryLines style fixed findings ∧
      (listed style findings).keys.Nodup ∧
      (∀ resource group, (resource, group) ∈ listed style findings ↔
        group = about resource findings ∧ group ≠ [] ∧
          (verbose = true ∨ ∃ finding ∈ group, finding.valid = false)) ∧
      (∀ resource rest, IsBelow workspace resource rest →
        (style.shown resource = rest ↔
          workspace.current ≠ [] ∧ ¬ style.hidden.toList <:+: rest.toList)) ∧
      (∀ resource, (¬ ∃ rest, IsBelow workspace resource rest) →
        (style.shown resource = resource ↔ ¬ style.hidden.toList <:+: resource.toList)) ∧
      ∀ more, more ≠ [] → (∀ name ∈ more, RepoPath.IsName name) →
        IsBelow workspace ("/" ++ Markers.relativeText (workspace.current ++ more))
          (Markers.relativeText more) :=
  ⟨textLines_eq _ fixed findings, nodup_listed _ findings, fun _ _ => mem_listed_iff,
    fun _ _ hbelow => shown_eq_rest_iff hbelow verbose,
    fun resource _ => shown_eq_self_iff _ verbose resource,
    fun _ hne hmore => isBelow_relativeText hcurrent hne hmore⟩

/-- A workspace in which names lead to the current directory. -/
def workspaceAt (names : List String) : Workspace := ⟨.folder [], names⟩

/-- A finding that a resource is not in order. -/
def problem (resource : String) : Finding where
  resource
  valid := false
  rule := "module-required-files"
  message? := some "Required file not found"

/-- A file below the current directory loses the directory, one beside it with a longer name does
not. -/
theorem headings_belowAndBeside :
    (∀ name ∈ (workspaceAt ["repo"]).current, RepoPath.IsName name) ∧
      ("/repo/b/README.md", [problem "/repo/b/README.md"]) ∈
        listed (Style.relativeTo (workspaceAt ["repo"]).currentPath false)
          [problem "/repo/b/README.md", problem "/repository/x"] ∧
      (Style.relativeTo (workspaceAt ["repo"]).currentPath false).shown "/repo/b/README.md" =
        "b/README.md" ∧
      (Style.relativeTo (workspaceAt ["repo"]).currentPath false).shown "/repository/x" =
        "/repository/x" := by
  have hcurrent : ∀ name ∈ (workspaceAt ["repo"]).current, RepoPath.IsName name := by decide
  obtain ⟨-, -, hlisted, hbelow, hbeside, -⟩ := headings_relativeTo hcurrent false 0
    [problem "/repo/b/README.md", problem "/repository/x"]
  refine ⟨hcurrent, (hlisted _ _).mpr ⟨?_, ?_, ?_⟩, ?_, ?_⟩
  · decide
  · decide
  · decide
  · exact (hbelow _ _ (by decide)).mpr (by decide)
  · refine (hbeside _ ?_).mpr (by decide)
    rintro ⟨rest, hrest⟩
    exact absurd hrest.holds (by decide)

/-- The lines of a report on a single problem. -/
def linesFor (names : List String) (resource : String) : List String :=
  textLines (Style.relativeTo (workspaceAt names).currentPath false) 0 [problem resource]

/-- A directory below the current one loses its name if it has the same, and so does one elsewhere.
Below the root nothing is left out. -/
theorem misheaded_recurring :
    IsBelow (workspaceAt ["repo"]) "/repo/a/repo/x" "a/repo/x" ∧
      (linesFor ["repo"] "/repo/a/repo/x")[1]? = some "ax" ∧
      (workspaceAt ["repo"]).currentPath.holds ⟨"/other/repo/x"⟩ = false ∧
      (linesFor ["repo"] "/other/repo/x")[1]? = some "/otherx" ∧
      IsBelow (workspaceAt []) "/a/x" "a/x" ∧ (linesFor [] "/a/x")[1]? = some "/a/x" := by
  decide

end Report

end Conventions
