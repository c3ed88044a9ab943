import Conventions.Proofs.Glob.Below
import Conventions.Proofs.Workspace.Walk

/-!
# Marker files and ignored paths

Whatever is below an ignored path is ignored, so that the search for marker files can pass over
ignored directories: it finds the files that some marker matches and no ignore pattern does,
each once and in ascending order. Neither the order of markers and patterns counts nor how often
each is given.
-/

namespace Conventions

/-! ### Patterns at any depth -/

namespace Glob

/-- A text without separators at its end does not end in one. -/
theorem getLast?_withoutTrailing (pattern : String) :
    (withoutTrailing pattern).toList.getLast? ≠ some '/' := by
  intro hlast
  have hhead : (pattern.toList.reverse.dropWhile (· == '/')).head? = some '/' := by
    simpa [withoutTrailing] using hlast
  have hnot := List.head?_dropWhile_not (· == '/') pattern.toList.reverse
  simp [hhead] at hnot

/-- A text that is to match at any depth does not end in a separator unless it is empty. -/
theorem getLast?_atAnyDepth {pattern : String} (h : (withoutTrailing pattern).isEmpty = false) :
    (atAnyDepth pattern).toList.getLast? ≠ some '/' := by
  have hne : (withoutTrailing pattern).toList ≠ [] := by simpa using h
  have hlast := getLast?_withoutTrailing pattern
  simp only [atAnyDepth]
  split
  · exact hlast
  · rwa [String.toList_append, List.getLast?_append_of_ne_nil _ hne]

end Glob

namespace Ignored

/-- What is below a path that a pattern matches is matched by the pattern. -/
theorem anyMatch_globsOf_below {pattern : String} {own : List Glob.Pattern}
    (hown : globsOf pattern = .ok own) {above : String} (h : Glob.anyMatch own above = true)
    (below : String) : Glob.anyMatch own (above ++ "/" ++ below) = true := by
  unfold globsOf at hown
  split at hown
  · cases hown
    cases h
  · next hpattern =>
    obtain ⟨self, hself, hown⟩ := bind_eq_ok_iff.mp hown
    obtain ⟨inside, hinside, hown⟩ := bind_eq_ok_iff.mp hown
    cases hown
    simp only [Bool.or_eq_true, not_or, Bool.not_eq_true] at hpattern
    have hlast : (Glob.atAnyDepth pattern).toList.getLast? ≠ some '/' :=
      Glob.getLast?_atAnyDepth hpattern.2
    exact Glob.anyMatch_below hlast hself hinside h below

variable {patterns : List String} {ignored : List Glob.Pattern}

/-- A path is ignored if one of the patterns matches it. -/
theorem anyMatch_globs_iff (h : globs patterns = .ok ignored) (path : String) :
    Glob.anyMatch ignored path = true ↔
      ∃ pattern ∈ patterns, ∃ own, globsOf pattern = .ok own ∧ Glob.anyMatch own path = true := by
  obtain ⟨sets, hsets, h⟩ := bind_eq_ok_iff.mp h
  cases h
  simp only [Glob.anyMatch_flatten, mem_iff_of_mapM hsets]
  grind

/-- Whatever is below an ignored path is ignored. -/
theorem anyMatch_globs_below (h : globs patterns = .ok ignored) {above : String}
    (habove : Glob.anyMatch ignored above = true) (below : String) :
    Glob.anyMatch ignored (above ++ "/" ++ below) = true := by
  rw [anyMatch_globs_iff h] at habove ⊢
  obtain ⟨pattern, hpattern, own, hown, hmatch⟩ := habove
  exact ⟨pattern, hpattern, own, hown, anyMatch_globsOf_below hown hmatch below⟩

/-- Other lists of the same patterns ignore the same paths. -/
theorem globs_of_same {patterns' : List String} (h : globs patterns = .ok ignored)
    (hsame : ∀ pattern, pattern ∈ patterns' ↔ pattern ∈ patterns) :
    ∃ ignored', globs patterns' = .ok ignored' ∧
      Glob.anyMatch ignored' = Glob.anyMatch ignored := by
  obtain ⟨sets, hsets, -⟩ := bind_eq_ok_iff.mp h
  obtain ⟨sets', hsets'⟩ := exists_mapM_iff.mpr fun pattern hpattern =>
    exists_mapM_iff.mp ⟨sets, hsets⟩ pattern ((hsame pattern).mp hpattern)
  have hignored' : globs patterns' = .ok sets'.flatten := bind_eq_ok_iff.mpr ⟨sets', hsets', rfl⟩
  refine ⟨_, hignored', funext fun path => Bool.eq_iff_iff.mpr ?_⟩
  simp only [anyMatch_globs_iff h, anyMatch_globs_iff hignored', hsame]

end Ignored

namespace Markers

/-! ### Texts of paths -/

/-- The text of a path that goes on has that of the further names behind a separator. -/
theorem relativeText_append {names more : List String} (hnames : names ≠ []) (hmore : more ≠ []) :
    relativeText (names ++ more) = relativeText names ++ "/" ++ relativeText more :=
  String.intercalate_append_of_ne_nil hnames hmore

/-- Passing over ignored directories loses no file that is not ignored. -/
theorem closed_not_ignored {patterns : List String} {ignored : List Glob.Pattern}
    (h : Ignored.globs patterns = .ok ignored) :
    FileTree.Closed fun names => !Glob.anyMatch ignored (relativeText names) := by
  intro names more hnames hkeep
  by_cases hmore : more = []
  · simpa [hmore] using hkeep
  · simp only [Bool.not_eq_true', relativeText_append hnames hmore] at hkeep ⊢
    rw [← Bool.not_eq_true] at hkeep ⊢
    exact fun hignored => hkeep (Ignored.anyMatch_globs_below h hignored _)

/-- Markers match what the glob of one of them matches. -/
theorem anyMatch_globs_iff {markers : List String} {wanted : List Glob.Pattern}
    (h : globs markers = .ok wanted) (path : String) :
    Glob.anyMatch wanted path = true ↔ ∃ marker ∈ markers, ∃ glob,
      Glob.parse ("**/" ++ marker) = .ok glob ∧ Glob.isMatch glob path = true := by
  rw [Glob.anyMatch_iff]
  simp only [mem_iff_of_mapM h]
  grind

/-- Other lists of the same markers match the same paths. -/
theorem globs_of_same {markers markers' : List String} {wanted : List Glob.Pattern}
    (h : globs markers = .ok wanted) (hsame : ∀ marker, marker ∈ markers' ↔ marker ∈ markers) :
    ∃ wanted', globs markers' = .ok wanted' ∧ Glob.anyMatch wanted' = Glob.anyMatch wanted := by
  obtain ⟨wanted', hwanted'⟩ := exists_mapM_iff.mpr fun marker hmarker =>
    exists_mapM_iff.mp ⟨wanted, h⟩ marker ((hsame marker).mp hmarker)
  refine ⟨wanted', hwanted', funext fun path => Bool.eq_iff_iff.mpr ?_⟩
  simp only [anyMatch_globs_iff h, anyMatch_globs_iff hwanted', hsame]

/-! ### Paths of files -/

/-- The path that names lead to has them as its last components. -/
theorem components_pathOf (base : RepoPath) {names : List String}
    (h : ∀ name ∈ names, RepoPath.IsName name) :
    (pathOf base names).components = base.components ++ names.map .name := by
  induction names generalizing base with
  | nil => simp [pathOf]
  | cons name rest ih =>
    obtain ⟨hname, hrest⟩ := List.forall_mem_cons.mp h
    have hpath : pathOf base (name :: rest) = pathOf (base.join name) rest := rfl
    rw [hpath, ih _ hrest, RepoPath.components_join base hname]
    simp

/-- Different names lead to paths with different components. -/
theorem names_eq_of_components_pathOf {base : RepoPath} {names other : List String}
    (hnames : ∀ name ∈ names, RepoPath.IsName name) (hother : ∀ name ∈ other, RepoPath.IsName name)
    (h : (pathOf base names).components = (pathOf base other).components) : names = other := by
  rw [components_pathOf base hnames, components_pathOf base hother, List.append_cancel_left_eq] at h
  exact List.map_injective_iff.mpr (fun _ _ => Component.name.inj) h

/-- Paths of different files, once sorted, ascend. -/
theorem pairwise_sortPaths (base : RepoPath) {files : List (List String)} (hnodup : files.Nodup)
    (hnames : ∀ names ∈ files, ∀ name ∈ names, RepoPath.IsName name) :
    (sortPaths (files.map (pathOf base))).Pairwise fun a b => a.before b = true := by
  have hapart : (files.map (pathOf base)).Pairwise fun a b => a.components ≠ b.components := by
    refine List.pairwise_map.mpr (hnodup.imp_of_mem ?_)
    intro names other hmem hother hne heq
    exact hne (names_eq_of_components_pathOf (hnames _ hmem) (hnames _ hother) heq)
  have hsorted := RepoPath.isOrder_before.pairwise_sortBy (files.map (pathOf base))
  have hapart' : (sortPaths (files.map (pathOf base))).Pairwise
      fun a b => a.components ≠ b.components :=
    ((sortBy_perm _ _).pairwise_iff fun h => h.symm).mpr hapart
  refine (hsorted.and hapart').imp ?_
  rintro a b ⟨hnot, hne⟩
  by_contra hbefore
  exact hne (RepoPath.same_of_not_before (by simpa using hbefore) hnot)

/-! ### What the search finds -/

/-- Names lead from a base directory to a file. -/
def IsFileBelow (workspace : Workspace) (base : RepoPath) (names : List String) : Prop :=
  ∃ tree content, workspace.find base = .ok tree ∧ tree.contentAt? names = some content

/-- What is found in a tidy workspace is tidy. -/
theorem tidy_of_find {workspace : Workspace} (h : workspace.root.Tidy) {path : RepoPath}
    {tree : FileTree} (hfind : workspace.find path = .ok tree) : tree.Tidy := by
  obtain ⟨place, -, htree⟩ := bind_eq_ok_iff.mp hfind
  unfold Workspace.treeAt at htree
  split at htree
  · cases htree
  · next below hbelow =>
    cases htree
    exact (h.of_descend? hbelow).1

/-- The files of a tree that are wanted and not ignored. A file that is the whole tree is never
ignored. -/
def filtered (wanted ignored : List Glob.Pattern) (tree : FileTree) : List (List String) :=
  ((tree.filesWhere FileTree.keepAll []).filter
    (FileTree.reaches fun names => !Glob.anyMatch ignored (relativeText names))).filter
      fun names => Glob.anyMatch wanted (relativeText names)

/-- A file is among the filtered ones of a tidy tree if it is in the tree, wanted and not
ignored by any glob. -/
theorem mem_filtered_iff {tree : FileTree} (h : tree.Tidy) {wanted ignored : List Glob.Pattern}
    {names : List String} : names ∈ filtered wanted ignored tree ↔
      (∃ content, tree.contentAt? names = some content) ∧
        (names ≠ [] → ∀ glob ∈ ignored, Glob.isMatch glob (relativeText names) = false) ∧
        Glob.anyMatch wanted (relativeText names) = true := by
  have hfiles : names ∈ tree.filesWhere FileTree.keepAll [] ↔
      ∃ content, tree.contentAt? names = some content := by
    rw [FileTree.mem_filesWhere_keepAll [] names tree h]
    simp
  have hreaches : FileTree.reaches (fun names => !Glob.anyMatch ignored (relativeText names)) names
      = true ↔
        (names ≠ [] → ∀ glob ∈ ignored, Glob.isMatch glob (relativeText names) = false) := by
    simp [FileTree.reaches, or_iff_not_imp_left, Glob.anyMatch_eq_false_iff]
  rw [filtered, List.mem_filter, List.mem_filter, hfiles, hreaches, and_assoc]

/-- The search gives the paths of the filtered files, in ascending order; none if there is
nothing at the base directory. -/
theorem find_eq_filtered (workspace : Workspace) (base : RepoPath) {markers patterns : List String}
    {wanted ignored : List Glob.Pattern} (hwanted : globs markers = .ok wanted)
    (hignored : Ignored.globs patterns = .ok ignored) :
    find workspace base markers ignored = .ok (match workspace.find base with
      | .error _ => []
      | .ok tree => sortPaths ((filtered wanted ignored tree).map (pathOf base))) := by
  unfold find
  by_cases hmarkers : markers.isEmpty = true
  · obtain rfl : markers = [] := by simpa using hmarkers
    cases hwanted
    rw [if_pos hmarkers]
    cases workspace.find base with
    | error problem => rfl
    | ok tree => simp [filtered, Glob.anyMatch, sortPaths, sortBy]
  · rw [if_neg hmarkers, hwanted]
    change (match workspace.find base with
      | .error _ => return []
      | .ok tree => _) = _
    cases workspace.find base with
    | error problem => rfl
    | ok tree =>
      simp only [filtered, FileTree.filesWhere_eq_filter (closed_not_ignored hignored) [] rfl tree]
      rfl

/-- Exactly those files below the base directory are found of which the path is matched by a
marker at any depth and by no ignore pattern, each once and in ascending order, and other lists
of the same markers and patterns find the same. No names lead to the base directory itself; if a
file is in its place, patterns do not apply to it. -/
theorem find_finds_unignored {workspace : Workspace} (htidy : workspace.root.Tidy) (base : RepoPath)
    {markers patterns : List String} {wanted ignored : List Glob.Pattern}
    (hwanted : globs markers = .ok wanted) (hignored : Ignored.globs patterns = .ok ignored) :
    ∃ found, find workspace base markers ignored = .ok found ∧
      (found.Pairwise fun a b => a.before b = true) ∧
      (∀ path, path ∈ found ↔ ∃ names, path = pathOf base names ∧
        IsFileBelow workspace base names ∧
        (names ≠ [] → ∀ glob ∈ ignored, Glob.isMatch glob (relativeText names) = false) ∧
        ∃ marker ∈ markers, ∃ glob, Glob.parse ("**/" ++ marker) = .ok glob ∧
          Glob.isMatch glob (relativeText names) = true) ∧
      ∀ markers' patterns', (∀ marker, marker ∈ markers' ↔ marker ∈ markers) →
        (∀ pattern, pattern ∈ patterns' ↔ pattern ∈ patterns) →
        ∃ ignored', Ignored.globs patterns' = .ok ignored' ∧
          find workspace base markers' ignored' = .ok found := by
  refine ⟨_, find_eq_filtered workspace base hwanted hignored, ?_, ?_, ?_⟩
  · cases hfind : workspace.find base with
    | error problem => exact List.Pairwise.nil
    | ok tree =>
      have htree := tidy_of_find htidy hfind
      have hnodup := FileTree.nodup_filesWhere_keepAll [] tree htree
      refine pairwise_sortPaths base ((hnodup.filter _).filter _) fun names hnames => ?_
      obtain ⟨⟨content, hcontent⟩, -⟩ := (mem_filtered_iff htree).mp hnames
      exact htree.isName_of_contentAt? hcontent
  · intro path
    simp only [← anyMatch_globs_iff hwanted, IsFileBelow]
    cases hfind : workspace.find base with
    | error problem => simp
    | ok tree =>
      simp only [sortPaths, mem_sortBy, List.mem_map, mem_filtered_iff (tidy_of_find htidy hfind)]
      constructor
      · rintro ⟨names, ⟨⟨content, hcontent⟩, hkept⟩, rfl⟩
        exact ⟨names, rfl, ⟨tree, content, rfl, hcontent⟩, hkept⟩
      · rintro ⟨names, rfl, ⟨found, content, htree, hcontent⟩, hkept⟩
        cases htree
        exact ⟨names, ⟨⟨content, hcontent⟩, hkept⟩, rfl⟩
  · intro markers' patterns' hmarkers hpatterns
    obtain ⟨wanted', hwanted', hwantedSame⟩ := globs_of_same hwanted hmarkers
    obtain ⟨ignored', hignored', hignoredSame⟩ := Ignored.globs_of_same hignored hpatterns
    refine ⟨ignored', hignored', ?_⟩
    rw [find_eq_filtered workspace base hwanted' hignored']
    simp only [filtered, hwantedSame, hignoredSame]

/-- Folders with marker files, two of them within ignored folders. -/
def ignoredFolders : Workspace where
  root := .folder [
    (".hidden", .folder [("q", .file (.text ""))]),
    ("a", .folder [
      ("dist", .folder [("b", .folder [("p", .file (.text ""))])]),
      ("p", .file (.text "")),
      ("r.", .file (.text "")),
      ("skip", .file (.text "")),
      ("t.", .file (.text ""))]),
    ("node_modules", .folder [("c", .folder [("q", .file (.text ""))])])]
  current := []

/-- Marker files within ignored folders are not found, at whatever depth, nor those that are ignored
themselves. A dot at the end of a name is a character like others. -/
theorem find_ignoredFolders : ∃ ignored wanted found,
    Ignored.globs ["node_modules", "!p", "dist/", "s*", "t."] = .ok ignored ∧
      globs ["p", "q", "skip", "?.", "p"] = .ok wanted ∧ ignoredFolders.root.Tidy ∧
      find ignoredFolders ⟨"."⟩ ["p", "q", "skip", "?.", "p"] ignored = .ok found ∧
      found.map (·.text) = ["./.hidden/q", "./a/p", "./a/r."] ∧
      found.Pairwise fun a b => a.before b = true := by
  have htidy : ignoredFolders.root.Tidy := by decide +kernel
  have hwanted : (globs ["p", "q", "skip", "?.", "p"]).toOption.any (fun _ => true) = true := by
    decide +kernel
  have hrun : (Ignored.globs ["node_modules", "!p", "dist/", "s*", "t."]).toOption.any
      (fun ignored =>
        (find ignoredFolders ⟨"."⟩ ["p", "q", "skip", "?.", "p"] ignored).toOption.any fun found =>
          found.map (·.text) == ["./.hidden/q", "./a/p", "./a/r."]) = true := by decide +kernel
  obtain ⟨wanted, hwanted, -⟩ := exists_ok_of_any hwanted
  obtain ⟨ignored, hignored, hrun⟩ := exists_ok_of_any hrun
  obtain ⟨found, hfound, hascending, -⟩ := find_finds_unignored htidy ⟨"."⟩ hwanted hignored
  obtain ⟨same, hsame, htexts⟩ := exists_ok_of_any hrun
  cases hfound.symm.trans hsame
  exact ⟨ignored, wanted, found, hignored, hwanted, htidy, hfound, by simpa using htexts,
    hascending⟩

end Markers

end Conventions
