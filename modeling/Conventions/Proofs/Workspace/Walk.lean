import Conventions.Proofs.Path
import Conventions.Proofs.Workspace.Writing
import Mathlib.Data.List.Nodup

/-!
# Walks through file trees

In a tidy tree the entries of each folder have names in ascending order, as those of
directories have. A walk through such a tree comes across each of its files once. If nothing
below what is left out would be kept, a walk that does not enter what is left out finds the
same files as one that looks at every file.
-/

namespace Conventions.FileTree

/-! ### Tidy trees -/

mutual

/-- In every folder of the tree the names of the entries ascend and are what entries can be
called. -/
def Tidy : FileTree → Prop
  | .file _ => True
  | .folder entries => Entries.Ascending entries ∧ TidyEntries entries

/-- Entries are called what they can be called, and their trees are tidy. -/
def TidyEntries : List (String × FileTree) → Prop
  | [] => True
  | (name, tree) :: rest => RepoPath.IsName name ∧ tree.Tidy ∧ TidyEntries rest

end

mutual

instance decidableTidy : (tree : FileTree) → Decidable tree.Tidy
  | .file _ => .isTrue trivial
  | .folder entries =>
    have := decidableTidyEntries entries
    inferInstanceAs (Decidable (List.Pairwise _ entries ∧ TidyEntries entries))

instance decidableTidyEntries : (entries : List (String × FileTree)) →
    Decidable (TidyEntries entries)
  | [] => .isTrue trivial
  | (name, tree) :: rest =>
    have := decidableTidy tree
    have := decidableTidyEntries rest
    inferInstanceAs (Decidable (RepoPath.IsName name ∧ tree.Tidy ∧ TidyEntries rest))

end

/-- What is found in tidy entries is tidy, and found under a name. -/
theorem TidyEntries.of_find? {name : String} {tree : FileTree} {entries : List (String × FileTree)}
    (h : TidyEntries entries) (hfind : Entries.find? name entries = some tree) :
    RepoPath.IsName name ∧ tree.Tidy := by
  induction entries with
  | nil => cases hfind
  | cons entry rest ih =>
    obtain ⟨k, v⟩ := entry
    obtain ⟨hname, htree, hrest⟩ := h
    unfold Entries.find? at hfind
    split at hfind
    · next heq =>
      cases hfind
      exact ⟨heq ▸ hname, htree⟩
    · exact ih hrest hfind

/-- What names lead to in a tidy tree is tidy, and they are names of entries. -/
theorem Tidy.of_descend? {names : List String} {tree below : FileTree} (h : tree.Tidy)
    (hdescend : tree.descend? names = some below) :
    below.Tidy ∧ ∀ name ∈ names, RepoPath.IsName name := by
  induction names generalizing tree with
  | nil =>
    cases hdescend
    exact ⟨h, fun _ hname => (List.not_mem_nil hname).elim⟩
  | cons name rest ih =>
    cases tree with
    | file content => cases hdescend
    | folder entries =>
      obtain ⟨entry, hentry, hdescend⟩ := Option.bind_eq_some_iff.mp hdescend
      obtain ⟨hname, htidy⟩ := TidyEntries.of_find? h.2 hentry
      obtain ⟨hbelow, hrest⟩ := ih htidy hdescend
      exact ⟨hbelow, List.forall_mem_cons.mpr ⟨hname, hrest⟩⟩

/-- Names that lead to a file of a tidy tree are names of entries. -/
theorem Tidy.isName_of_contentAt? {names : List String} {tree : FileTree} {content : FileContent}
    (h : tree.Tidy) (hcontent : tree.contentAt? names = some content) :
    ∀ name ∈ names, RepoPath.IsName name :=
  (h.of_descend? (contentAt?_eq_some_iff.mp hcontent)).2

/-- A tidy entry that is put among tidy ones leaves them tidy. -/
theorem TidyEntries.insertSorted {name : String} {tree : FileTree}
    {entries : List (String × FileTree)} (h : TidyEntries entries) (hname : RepoPath.IsName name)
    (htree : tree.Tidy) : TidyEntries (Entries.insertSorted name tree entries) := by
  induction entries with
  | nil => exact ⟨hname, htree, trivial⟩
  | cons entry rest ih =>
    obtain ⟨hfirst, hentry, hrest⟩ := h
    unfold Entries.insertSorted
    split
    · exact ⟨hname, htree, hfirst, hentry, hrest⟩
    · split
      · exact ⟨hname, htree, hrest⟩
      · exact ⟨hfirst, hentry, ih hrest⟩

/-- A tree that grows by a file under names of entries stays tidy. -/
theorem Tidy.put {added tree : FileTree} (h : tree.Tidy) (hadded : added.Tidy)
    {names : List String} (hnames : ∀ name ∈ names, RepoPath.IsName name) :
    (added.put names tree).Tidy := by
  induction names generalizing tree with
  | nil => exact hadded
  | cons name rest ih =>
    obtain ⟨hname, hrest⟩ := List.forall_mem_cons.mp hnames
    cases tree with
    | file content => exact h
    | folder entries =>
      obtain ⟨hascending, hentries⟩ := h
      refine ⟨hascending.insertSorted _ _, hentries.insertSorted hname (ih ?_ hrest)⟩
      cases hentry : Entries.find? name entries with
      | none => exact ⟨List.Pairwise.nil, trivial⟩
      | some below => exact (hentries.of_find? hentry).2

/-- A change of a tidy entry leaves entries tidy, and under the same names. -/
theorem TidyEntries.modify {change : FileTree → FileTree}
    (hchange : ∀ tree : FileTree, tree.Tidy → (change tree).Tidy) (name : String)
    {entries : List (String × FileTree)} (h : TidyEntries entries) :
    TidyEntries (Entries.modify name change entries) := by
  induction entries with
  | nil => trivial
  | cons entry rest ih =>
    obtain ⟨hfirst, hentry, hrest⟩ := h
    unfold Entries.modify
    split
    · exact ⟨hfirst, hchange _ hentry, hrest⟩
    · exact ⟨hfirst, hentry, ih hrest⟩

/-- A tree stays tidy when a file is given another content. -/
theorem Tidy.overwrite {tree : FileTree} (h : tree.Tidy) (content : FileContent)
    (place : List String) : (tree.overwrite content place).Tidy := by
  induction place generalizing tree with
  | nil =>
    cases tree with
    | file old => trivial
    | folder entries => exact h
  | cons name rest ih =>
    cases tree with
    | file old => trivial
    | folder entries => exact ⟨h.1.modify _ _, h.2.modify (fun _ => ih) _⟩

/-! ### Walks that see every file -/

/-- A walk that keeps everything. -/
def keepAll : List String → Bool := fun _ => true

mutual

/-- A walk through a tidy tree finds its files. -/
theorem mem_filesWhere_keepAll (above names : List String) :
    ∀ tree : FileTree, tree.Tidy → (names ∈ filesWhere keepAll above tree ↔
      ∃ below content, names = above ++ below ∧ tree.contentAt? below = some content)
  | .file content, _ => by
    rw [filesWhere, List.mem_singleton]
    constructor
    · rintro rfl
      exact ⟨[], content, (List.append_nil _).symm, rfl⟩
    · rintro ⟨below, other, rfl, hcontent⟩
      cases below with
      | nil => exact List.append_nil _
      | cons name rest => cases hcontent
  | .folder entries, h => by
    rw [filesWhere, mem_entriesWhere_keepAll above names entries h.1 h.2]
    constructor
    · rintro ⟨name, rest, content, rfl, hcontent⟩
      exact ⟨name :: rest, content, rfl, by rwa [contentAt?_folder]⟩
    · rintro ⟨below, content, rfl, hcontent⟩
      cases below with
      | nil => cases hcontent
      | cons name rest => exact ⟨name, rest, content, rfl, by rwa [contentAt?_folder] at hcontent⟩

/-- A walk through tidy entries finds the files in them. -/
theorem mem_entriesWhere_keepAll (above names : List String) :
    ∀ entries : List (String × FileTree), Entries.Ascending entries → TidyEntries entries →
      (names ∈ entriesWhere keepAll above entries ↔
        ∃ name rest content, names = above ++ name :: rest ∧
          (Entries.find? name entries).bind (contentAt? rest) = some content)
  | [], _, _ => by simp [entriesWhere, Entries.find?]
  | (k, tree) :: more, hascending, h => by
    obtain ⟨-, htree, hmore⟩ := h
    rw [entriesWhere, keepAll, if_pos rfl, List.mem_append,
      mem_filesWhere_keepAll (above ++ [k]) names tree htree,
      mem_entriesWhere_keepAll above names more (List.pairwise_cons.mp hascending).2 hmore]
    constructor
    · rintro (⟨rest, content, rfl, hcontent⟩ | ⟨name, rest, content, rfl, hcontent⟩)
      · exact ⟨k, rest, content, by simp, by simpa [Entries.find?] using hcontent⟩
      · refine ⟨name, rest, content, rfl, ?_⟩
        have hne : k ≠ name := by
          rintro rfl
          simp [hascending.find?_tail] at hcontent
        rwa [Entries.find?, if_neg hne]
    · rintro ⟨name, rest, content, rfl, hcontent⟩
      by_cases heq : k = name
      · subst heq
        exact Or.inl ⟨rest, content, by simp, by simpa [Entries.find?] using hcontent⟩
      · rw [Entries.find?, if_neg heq] at hcontent
        exact Or.inr ⟨name, rest, content, rfl, hcontent⟩

end

mutual

/-- A walk finds files below where it starts. -/
theorem prefix_of_mem_filesWhere (keep : List String → Bool) (above names : List String) :
    ∀ tree : FileTree, names ∈ filesWhere keep above tree → above <+: names
  | .file _, h => by
    obtain rfl := List.mem_singleton.mp h
    exact List.prefix_refl names
  | .folder entries, h => prefix_of_mem_entriesWhere keep above names entries h

/-- A walk through entries finds files below the folder that holds them. -/
theorem prefix_of_mem_entriesWhere (keep : List String → Bool) (above names : List String) :
    ∀ entries : List (String × FileTree), names ∈ entriesWhere keep above entries → above <+: names
  | [], h => (List.not_mem_nil h).elim
  | (k, tree) :: more, h => by
    rw [entriesWhere, List.mem_append] at h
    rcases h with h | h
    · split at h
      · exact (List.prefix_append above [k]).trans
          (prefix_of_mem_filesWhere keep (above ++ [k]) names tree h)
      · cases h
    · exact prefix_of_mem_entriesWhere keep above names more h

end

mutual

/-- A walk through a tidy tree finds no file twice. -/
theorem nodup_filesWhere_keepAll (above : List String) :
    ∀ tree : FileTree, tree.Tidy → (filesWhere keepAll above tree).Nodup
  | .file _, _ => List.nodup_singleton above
  | .folder entries, h => nodup_entriesWhere_keepAll above entries h.1 h.2

/-- A walk through tidy entries finds no file twice. -/
theorem nodup_entriesWhere_keepAll (above : List String) :
    ∀ entries : List (String × FileTree), Entries.Ascending entries → TidyEntries entries →
      (entriesWhere keepAll above entries).Nodup
  | [], _, _ => List.nodup_nil
  | (k, tree) :: more, hascending, h => by
    obtain ⟨-, htree, hmore⟩ := h
    have hrest : Entries.Ascending more := (List.pairwise_cons.mp hascending).2
    rw [entriesWhere, keepAll, if_pos rfl]
    refine List.nodup_append'.mpr ⟨nodup_filesWhere_keepAll (above ++ [k]) tree htree,
      nodup_entriesWhere_keepAll above more hrest hmore, ?_⟩
    -- A file below both would be in an entry of the first name among the others.
    intro names hfirst hother
    obtain ⟨name, rest, content, rfl, hcontent⟩ :=
      (mem_entriesWhere_keepAll above names more hrest hmore).mp hother
    have hprefix := prefix_of_mem_filesWhere _ _ _ tree hfirst
    obtain rfl : k = name := by simpa using hprefix
    simp [hascending.find?_tail] at hcontent

end

/-! ### Walks that leave something out -/

/-- Nothing below what is left out would be kept. -/
def Closed (keep : List String → Bool) : Prop :=
  ∀ names more, names ≠ [] → keep (names ++ more) = true → keep names = true

/-- Whether a walk is to find a file. Where it starts is not asked for. -/
def reaches (keep : List String → Bool) (names : List String) : Bool := names.isEmpty || keep names

mutual

/-- Leaving out whole directories is leaving out the files in them. -/
theorem filesWhere_eq_filter {keep : List String → Bool} (hclosed : Closed keep)
    (above : List String) (habove : reaches keep above = true) : ∀ tree : FileTree,
      filesWhere keep above tree = (filesWhere keepAll above tree).filter (reaches keep)
  | .file _ => by simp [filesWhere, habove]
  | .folder entries => entriesWhere_eq_filter hclosed above entries

/-- Leaving out entries is leaving out the files in them. -/
theorem entriesWhere_eq_filter {keep : List String → Bool} (hclosed : Closed keep)
    (above : List String) : ∀ entries : List (String × FileTree),
      entriesWhere keep above entries = (entriesWhere keepAll above entries).filter (reaches keep)
  | [] => rfl
  | (k, tree) :: more => by
    rw [entriesWhere, entriesWhere, List.filter_append,
      ← entriesWhere_eq_filter hclosed above more, keepAll, if_pos rfl]
    congr 1
    by_cases hkeep : keep (above ++ [k]) = true
    · rw [if_pos hkeep]
      exact filesWhere_eq_filter hclosed (above ++ [k]) (by simp [reaches, hkeep]) tree
    · rw [if_neg hkeep, eq_comm, List.filter_eq_nil_iff]
      intro names hnames hreached
      obtain ⟨below, rfl⟩ := prefix_of_mem_filesWhere _ _ _ tree hnames
      refine hkeep (hclosed _ below (by simp) ?_)
      simpa [reaches] using hreached

end

end Conventions.FileTree
