import Conventions.Proofs.Glob.Rooted
import Conventions.Proofs.Workspace.Markers

/-!
# The two ignore files

The same lines are read from both ignore files, but a separator in front of a line is taken off in
one of them only. With it a line ignores nothing at all, since it is looked for at any depth.
-/

namespace Conventions

namespace Ignored

/-- Whether a pattern has a separator in front. -/
def isAnchored (pattern : String) : Bool := Text.startsWith pattern "/"

/-- A pattern without a separator in front stays as it is when one is taken off. -/
theorem withoutLeading_of_not_isAnchored {pattern : String} (h : isAnchored pattern = false) :
    withoutLeading pattern = pattern := by
  unfold withoutLeading
  split
  · next rest hrest =>
    simp [isAnchored, Text.startsWith, hrest] at h
  · rfl

/-- A pattern with a separator in front has one behind the deep start when it is looked for at any
depth. -/
theorem atAnyDepth_of_isAnchored {pattern : String} (h : isAnchored pattern = true)
    (hsome : (Glob.withoutTrailing pattern).isEmpty = false) :
    ∃ rest, Glob.atAnyDepth pattern = String.ofList ('*' :: '*' :: '/' :: '/' :: rest) := by
  have hprefix : (Glob.withoutTrailing pattern).toList <+: pattern.toList := by
    rw [Glob.withoutTrailing, String.toList_ofList]
    rw [← List.reverse_suffix, List.reverse_reverse]
    exact List.dropWhile_suffix _
  have hne : (Glob.withoutTrailing pattern).toList ≠ [] := by simpa using hsome
  obtain ⟨c, rest, htext⟩ := List.exists_cons_of_ne_nil hne
  obtain ⟨tail, htail⟩ := hprefix
  obtain rfl : '/' = c := by
    rw [isAnchored, Text.startsWith, ← htail, htext] at h
    simpa [List.isPrefixOf] using h
  refine ⟨rest, ?_⟩
  have hdeep : Text.startsWith (Glob.withoutTrailing pattern) "**/" = false := by
    simp [Text.startsWith, htext, List.isPrefixOf]
  simp [← String.toList_inj, Glob.atAnyDepth, hdeep, htext]

/-- The globs of a pattern with a separator in front match no path of names. -/
theorem anyMatch_globsOf_isAnchored {pattern : String} (h : isAnchored pattern = true)
    {own : List Glob.Pattern} (hown : globsOf pattern = .ok own) {names : List String}
    (hnames : ∀ name ∈ names, RepoPath.IsName name) :
    Glob.anyMatch own (Markers.relativeText names) = false := by
  unfold globsOf at hown
  split at hown
  · cases hown
    rfl
  · next hpattern =>
    simp only [Bool.or_eq_true, not_or, Bool.not_eq_true] at hpattern
    obtain ⟨rest, hrest⟩ := atAnyDepth_of_isAnchored h hpattern.2
    obtain ⟨self, hself, hown⟩ := bind_eq_ok_iff.mp hown
    obtain ⟨inside, hinside, hown⟩ := bind_eq_ok_iff.mp hown
    cases hown
    have hbelow : Glob.atAnyDepth pattern ++ "/**" =
        String.ofList ('*' :: '*' :: '/' :: '/' :: (rest ++ ['/', '*', '*'])) := by
      rw [hrest]
      simp [← String.toList_inj]
    rw [hrest] at hself
    rw [hbelow] at hinside
    obtain ⟨first, more, rfl, hfirst⟩ := Glob.parse_separator hself
    obtain ⟨second, others, rfl, hsecond⟩ := Glob.parse_separator hinside
    have hone := Glob.isMatch_separator hfirst more hnames
    have htwo := Glob.isMatch_separator hsecond others hnames
    simp [Glob.anyMatch_eq_false_iff, Markers.relativeText, hone, htwo]

/-- Patterns ignore the same paths of names without those that have a separator in front. -/
theorem globs_filter_isAnchored {patterns : List String} {ignored : List Glob.Pattern}
    (h : globs patterns = .ok ignored) :
    ∃ kept, globs (patterns.filter fun pattern => !isAnchored pattern) = .ok kept ∧
      ∀ names, (∀ name ∈ names, RepoPath.IsName name) →
        Glob.anyMatch kept (Markers.relativeText names) =
          Glob.anyMatch ignored (Markers.relativeText names) := by
  obtain ⟨sets, hsets, -⟩ := bind_eq_ok_iff.mp h
  obtain ⟨sets', hsets'⟩ := exists_mapM_iff.mpr fun pattern hpattern =>
    exists_mapM_iff.mp ⟨sets, hsets⟩ pattern (List.mem_of_mem_filter hpattern)
  have hkept : globs (patterns.filter fun pattern => !isAnchored pattern) = .ok sets'.flatten :=
    bind_eq_ok_iff.mpr ⟨sets', hsets', rfl⟩
  refine ⟨_, hkept, fun names hnames => Bool.eq_iff_iff.mpr ?_⟩
  rw [anyMatch_globs_iff h, anyMatch_globs_iff hkept]
  constructor
  · rintro ⟨pattern, hpattern, own, hown, hmatch⟩
    exact ⟨pattern, List.mem_of_mem_filter hpattern, own, hown, hmatch⟩
  · rintro ⟨pattern, hpattern, own, hown, hmatch⟩
    have hfree : isAnchored pattern = false := by
      by_contra hanchored
      rw [Bool.not_eq_false] at hanchored
      rw [anyMatch_globsOf_isAnchored hanchored hown hnames] at hmatch
      cases hmatch
    exact ⟨pattern, List.mem_filter.mpr ⟨hpattern, by simp [hfree]⟩, own, hown, hmatch⟩

/-- What applies where there is only the file of the version control. -/
theorem patterns_of_gitFile {workspace : Workspace} {base : RepoPath} {text : String}
    (h : workspace.read (base.join gitFile) = .ok text)
    (hnone : ∀ other, workspace.read (base.join ownFile) ≠ .ok other) :
    patterns workspace base true = (patternsOf text).map withoutLeading := by
  cases hown : workspace.read (base.join ownFile) with
  | ok other => exact absurd hown (hnone other)
  | error problem => simp [patterns, readPatterns, h, hown]

/-- What applies where there is only the linter's own file. -/
theorem patterns_of_ownFile {workspace : Workspace} {base : RepoPath} {text : String}
    (h : workspace.read (base.join ownFile) = .ok text)
    (hnone : ∀ other, workspace.read (base.join gitFile) ≠ .ok other) (useGitignore : Bool) :
    patterns workspace base useGitignore = patternsOf text := by
  cases hgit : workspace.read (base.join gitFile) with
  | ok other => exact absurd hgit (hnone other)
  | error problem => cases useGitignore <;> simp [patterns, readPatterns, h, hgit]

end Ignored

namespace Markers

/-- The search for marker files with the patterns to be ignored. -/
def search (workspace : Workspace) (base : RepoPath) (markers patterns : List String) :
    Except Glob.Error (List RepoPath) := do
  find workspace base markers (← Ignored.globs patterns)

/-- Of a tidy tree, the same files are left by globs that match the same paths of names. -/
theorem filtered_congr {tree : FileTree} (htree : tree.Tidy) {ignored other : List Glob.Pattern}
    (h : ∀ names, (∀ name ∈ names, RepoPath.IsName name) →
      Glob.anyMatch other (relativeText names) = Glob.anyMatch ignored (relativeText names))
    (wanted : List Glob.Pattern) : filtered wanted other tree = filtered wanted ignored tree := by
  unfold filtered
  congr 1
  refine List.filter_congr fun names hnames => ?_
  obtain ⟨inner, content, hinner, hcontent⟩ :=
    (FileTree.mem_filesWhere_keepAll [] names tree htree).mp hnames
  obtain rfl : names = inner := by simpa using hinner
  rw [FileTree.reaches, FileTree.reaches, h names (htree.isName_of_contentAt? hcontent)]

/-- The search in a tidy tree finds the same with globs that match the same paths of names. -/
theorem find_congr {workspace : Workspace} (htidy : workspace.root.Tidy) (base : RepoPath)
    (markers : List String) {patterns others : List String} {ignored other : List Glob.Pattern}
    (hignored : Ignored.globs patterns = .ok ignored) (hother : Ignored.globs others = .ok other)
    (h : ∀ names, (∀ name ∈ names, RepoPath.IsName name) →
      Glob.anyMatch other (relativeText names) = Glob.anyMatch ignored (relativeText names)) :
    find workspace base markers other = find workspace base markers ignored := by
  cases hwanted : globs markers with
  | error problem =>
    simp only [find, hwanted]
    rfl
  | ok wanted =>
    rw [find_eq_filtered workspace base hwanted hother,
      find_eq_filtered workspace base hwanted hignored]
    cases hfind : workspace.find base with
    | error problem => rfl
    | ok tree => simp only [filtered_congr (tidy_of_find htidy hfind) h]

/-- The same text is read alike from both ignore files but for the lines that have a separator in
front. The file of the version control ignores what the linter's own file would ignore without
these separators, and in the linter's own file such lines ignore nothing. -/
theorem search_ignoreFiles {text : String} {git own workspace : Workspace} {base : RepoPath}
    (hgit : git.read (base.join Ignored.gitFile) = .ok text)
    (hgitOnly : ∀ other, git.read (base.join Ignored.ownFile) ≠ .ok other)
    (hown : own.read (base.join Ignored.ownFile) = .ok text)
    (hownOnly : ∀ other, own.read (base.join Ignored.gitFile) ≠ .ok other)
    (htidy : workspace.root.Tidy) (useGitignore : Bool) (markers : List String) :
    let lines := Ignored.patternsOf text
    let fromGit := search workspace base markers (Ignored.patterns git base true)
    let fromOwn := search workspace base markers (Ignored.patterns own base useGitignore)
    fromGit = search workspace base markers (lines.map Ignored.withoutLeading) ∧
    fromOwn = search workspace base markers lines ∧
    ((∀ line ∈ lines, Ignored.isAnchored line = false) → fromGit = fromOwn) ∧
    ∀ found, fromOwn = .ok found → search workspace base markers
      (lines.filter fun line => !Ignored.isAnchored line) = .ok found := by
  dsimp only
  rw [Ignored.patterns_of_gitFile hgit hgitOnly, Ignored.patterns_of_ownFile hown hownOnly]
  refine ⟨rfl, rfl, fun hfree => ?_, fun found hfound => ?_⟩
  · rw [List.map_congr_left fun line hline =>
      Ignored.withoutLeading_of_not_isAnchored (hfree line hline), List.map_id']
  · obtain ⟨ignored, hignored, hfound⟩ := bind_eq_ok_iff.mp hfound
    obtain ⟨kept, hkept, hsame⟩ := Ignored.globs_filter_isAnchored hignored
    rw [search, hkept]
    exact (find_congr htidy base markers hignored hkept hsame).trans hfound

/-- Folders with a marker file each, two of them named in an ignore file, one with a separator in
front. -/
def withIgnoreFile (name : String) : Workspace where
  root := .folder [
    (name, .file (.text "/dist\nnode_modules\n")),
    ("a", .folder [("p", .file (.text ""))]),
    ("dist", .folder [("p", .file (.text ""))]),
    ("node_modules", .folder [("p", .file (.text ""))])]
  current := []

/-- What is read from the ignore file of these folders. -/
theorem read_withIgnoreFile :
    ((withIgnoreFile ".gitignore").read (RepoPath.join ⟨"."⟩ Ignored.gitFile) =
        .ok "/dist\nnode_modules\n" ∧
      ∀ other, (withIgnoreFile ".gitignore").read (RepoPath.join ⟨"."⟩ Ignored.ownFile) ≠
        .ok other) ∧
    (withIgnoreFile ".monolintignore").read (RepoPath.join ⟨"."⟩ Ignored.ownFile) =
        .ok "/dist\nnode_modules\n" ∧
      ∀ other, (withIgnoreFile ".monolintignore").read (RepoPath.join ⟨"."⟩ Ignored.gitFile) ≠
        .ok other := by
  refine ⟨⟨rfl, ?_⟩, rfl, ?_⟩
  · rintro other h
    cases h
  · rintro other h
    cases h

/-- A line with a separator in front ignores a folder if it stands in the file of the version
control, and nothing in the linter's own file. -/
theorem search_ignoreFiles_dist : ∃ found ignored,
    search (withIgnoreFile ".gitignore") ⟨"."⟩ ["p"]
      (Ignored.patterns (withIgnoreFile ".gitignore") ⟨"."⟩ true) = .ok found ∧
    found.map (·.text) = ["./a/p"] ∧
    search (withIgnoreFile ".gitignore") ⟨"."⟩ ["p"]
      (Ignored.patterns (withIgnoreFile ".monolintignore") ⟨"."⟩ false) = .ok ignored ∧
    ignored.map (·.text) = ["./a/p", "./dist/p"] := by
  obtain ⟨⟨hgit, hgitOnly⟩, hown, hownOnly⟩ := read_withIgnoreFile
  have htidy : (withIgnoreFile ".gitignore").root.Tidy := by decide +kernel
  obtain ⟨hfromGit, hfromOwn, -, -⟩ :=
    search_ignoreFiles hgit hgitOnly hown hownOnly htidy false ["p"]
  have hstripped : (search (withIgnoreFile ".gitignore") ⟨"."⟩ ["p"]
      (["/dist", "node_modules"].map Ignored.withoutLeading)).toOption.any (fun found =>
        found.map (·.text) == ["./a/p"]) = true := by decide +kernel
  have hkept : (search (withIgnoreFile ".gitignore") ⟨"."⟩ ["p"]
      ["/dist", "node_modules"]).toOption.any (fun found =>
        found.map (·.text) == ["./a/p", "./dist/p"]) = true := by decide +kernel
  obtain ⟨found, hfound, htexts⟩ := exists_ok_of_any hstripped
  obtain ⟨ignored, hignored, hmore⟩ := exists_ok_of_any hkept
  exact ⟨found, ignored, hfromGit.trans hfound, eq_of_beq htexts, hfromOwn.trans hignored,
    eq_of_beq hmore⟩

/-- So the two ignore files are not read alike. -/
theorem not_search_alike : ¬ ∀ (text : String) (git own workspace : Workspace) (base : RepoPath),
    git.read (base.join Ignored.gitFile) = .ok text →
    (∀ other, git.read (base.join Ignored.ownFile) ≠ .ok other) →
    own.read (base.join Ignored.ownFile) = .ok text →
    (∀ other, own.read (base.join Ignored.gitFile) ≠ .ok other) →
    ∀ markers, search workspace base markers (Ignored.patterns git base true) =
      search workspace base markers (Ignored.patterns own base false) := by
  intro h
  obtain ⟨⟨hgit, hgitOnly⟩, hown, hownOnly⟩ := read_withIgnoreFile
  have hsame := congrArg (fun result => result.toOption.map (·.map (·.text)))
    (h _ _ _ (withIgnoreFile ".gitignore") _ hgit hgitOnly hown hownOnly ["p"])
  revert hsame
  decide +kernel

end Markers

end Conventions
