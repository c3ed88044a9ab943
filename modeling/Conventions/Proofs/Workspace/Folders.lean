import Conventions.Check.Folders
import Conventions.Proofs.Workspace.Walk

/-!
# The folders below a folder

In a tidy tree the walk for folders comes across every folder below the one where it starts, and
across each once. A folder is told by the names that lead to it.
-/

namespace Conventions.FileTree

/-- Names, at least one, lead to a folder of the tree. -/
def HasFolder (tree : FileTree) (names : List String) : Prop :=
  names ≠ [] ∧ ∃ entries, tree.descend? names = some (.folder entries)

/-- A file has no folders. -/
theorem not_hasFolder_file (content : FileContent) (names : List String) :
    ¬ (FileTree.file content).HasFolder names := by
  rintro ⟨hne, entries, hdescend⟩
  cases names with
  | nil => exact hne rfl
  | cons name rest => cases hdescend

/-- A folder has the folders that are its entries and those below its entries. -/
theorem hasFolder_folder_cons (entries : List (String × FileTree)) (name : String)
    (rest : List String) : (FileTree.folder entries).HasFolder (name :: rest) ↔
      ∃ tree, Entries.find? name entries = some tree ∧
        ((rest = [] ∧ tree.isFolder = true) ∨ tree.HasFolder rest) := by
  simp only [HasFolder, ne_eq, reduceCtorEq, not_false_eq_true, true_and, descend?,
    Option.bind_eq_bind, Option.bind_eq_some_iff]
  constructor
  · rintro ⟨found, tree, hfind, hdescend⟩
    refine ⟨tree, hfind, ?_⟩
    cases rest with
    | nil =>
      cases hdescend
      exact Or.inl ⟨rfl, rfl⟩
    | cons next more => exact Or.inr ⟨by simp, found, hdescend⟩
  · rintro ⟨tree, hfind, ⟨rfl, hfolder⟩ | ⟨-, found, hdescend⟩⟩
    · cases tree with
      | file content => cases hfolder
      | folder found => exact ⟨found, _, hfind, rfl⟩
    · exact ⟨found, tree, hfind, hdescend⟩

mutual

/-- The walk through a tidy tree finds its folders. -/
theorem mem_foldersBelow (above names : List String) : ∀ tree : FileTree, tree.Tidy →
    (names ∈ foldersBelow above tree ↔ ∃ below, names = above ++ below ∧ tree.HasFolder below)
  | .file content, _ => by
    simp [foldersBelow, not_hasFolder_file]
  | .folder entries, h => by
    rw [foldersBelow, mem_foldersAmong above names entries h.1 h.2]

/-- The walk through tidy entries finds the folders among them and below them. -/
theorem mem_foldersAmong (above names : List String) : ∀ entries : List (String × FileTree),
    Entries.Ascending entries → TidyEntries entries →
      (names ∈ foldersAmong above entries ↔
        ∃ below, names = above ++ below ∧ (FileTree.folder entries).HasFolder below)
  | [], _, _ => by
    simp only [foldersAmong, List.not_mem_nil, false_iff]
    rintro ⟨below, -, hne, found, hdescend⟩
    cases below with
    | nil => exact hne rfl
    | cons name rest => cases hdescend
  | (k, tree) :: more, hascending, h => by
    obtain ⟨-, htree, hmore⟩ := h
    have hrest : Entries.Ascending more := (List.pairwise_cons.mp hascending).2
    rw [foldersAmong, List.mem_append, List.mem_append,
      mem_foldersBelow (above ++ [k]) names tree htree,
      mem_foldersAmong above names more hrest hmore]
    constructor
    · rintro ((hself | ⟨below, rfl, hbelow⟩) | ⟨below, rfl, hbelow⟩)
      · split at hself
        · next hfolder =>
          obtain rfl := List.mem_singleton.mp hself
          exact ⟨[k], rfl, (hasFolder_folder_cons _ _ _).mpr
            ⟨tree, by simp [Entries.find?], Or.inl ⟨rfl, hfolder⟩⟩⟩
        · cases hself
      · exact ⟨k :: below, by simp, (hasFolder_folder_cons _ _ _).mpr
          ⟨tree, by simp [Entries.find?], Or.inr hbelow⟩⟩
      · obtain ⟨name, rest, rfl⟩ := List.exists_cons_of_ne_nil hbelow.1
        obtain ⟨found, hfind, hfound⟩ := (hasFolder_folder_cons _ _ _).mp hbelow
        have hne : k ≠ name := by
          rintro rfl
          simp [hascending.find?_tail] at hfind
        exact ⟨name :: rest, rfl, (hasFolder_folder_cons _ _ _).mpr
          ⟨found, by rwa [Entries.find?, if_neg hne], hfound⟩⟩
    · rintro ⟨below, rfl, hbelow⟩
      obtain ⟨name, rest, rfl⟩ := List.exists_cons_of_ne_nil hbelow.1
      obtain ⟨found, hfind, hfound⟩ := (hasFolder_folder_cons _ _ _).mp hbelow
      by_cases heq : k = name
      · subst heq
        obtain rfl : tree = found := by simpa [Entries.find?] using hfind
        rcases hfound with ⟨rfl, hfolder⟩ | hfound
        · exact Or.inl (Or.inl (by simp [hfolder]))
        · exact Or.inl (Or.inr ⟨rest, by simp, hfound⟩)
      · rw [Entries.find?, if_neg heq] at hfind
        exact Or.inr ⟨name :: rest, rfl,
          (hasFolder_folder_cons _ _ _).mpr ⟨found, hfind, hfound⟩⟩

end

mutual

/-- The walk through a tidy tree finds no folder twice. -/
theorem nodup_foldersBelow (above : List String) :
    ∀ tree : FileTree, tree.Tidy → (foldersBelow above tree).Nodup
  | .file _, _ => List.nodup_nil
  | .folder entries, h => nodup_foldersAmong above entries h.1 h.2

/-- The walk through tidy entries finds no folder twice. -/
theorem nodup_foldersAmong (above : List String) : ∀ entries : List (String × FileTree),
    Entries.Ascending entries → TidyEntries entries → (foldersAmong above entries).Nodup
  | [], _, _ => List.nodup_nil
  | (k, tree) :: more, hascending, h => by
    obtain ⟨-, htree, hmore⟩ := h
    have hrest : Entries.Ascending more := (List.pairwise_cons.mp hascending).2
    have hself : (if tree.isFolder then [above ++ [k]] else []).Nodup := by
      split <;> simp
    rw [foldersAmong]
    refine List.nodup_append'.mpr ⟨List.nodup_append'.mpr ⟨hself,
      nodup_foldersBelow (above ++ [k]) tree htree, ?_⟩,
      nodup_foldersAmong above more hrest hmore, ?_⟩
    · -- What is below an entry has more names than the entry.
      intro names hnames hbelow
      obtain ⟨below, rfl, hne, -⟩ := (mem_foldersBelow (above ++ [k]) names tree htree).mp hbelow
      have heq : above ++ [k] ++ below = above ++ [k] := by
        split at hnames
        · exact List.mem_singleton.mp hnames
        · cases hnames
      exact hne (by simpa using heq)
    · -- A folder below both would be in an entry of the first name among the others.
      intro names hfirst hother
      obtain ⟨below, rfl, hbelow⟩ := (mem_foldersAmong above names more hrest hmore).mp hother
      obtain ⟨name, rest, rfl⟩ := List.exists_cons_of_ne_nil hbelow.1
      obtain ⟨found, hfind, -⟩ := (hasFolder_folder_cons _ _ _).mp hbelow
      have hprefix : above ++ [k] <+: above ++ name :: rest := by
        rcases List.mem_append.mp hfirst with hself | hinner
        · split at hself
          · exact List.mem_singleton.mp hself ▸ List.prefix_refl (above ++ [k])
          · cases hself
        · obtain ⟨inner, heq, -⟩ := (mem_foldersBelow (above ++ [k]) _ tree htree).mp hinner
          exact ⟨inner, heq.symm⟩
      obtain rfl : k = name := by simpa using hprefix
      simp [hascending.find?_tail] at hfind

end

end Conventions.FileTree
