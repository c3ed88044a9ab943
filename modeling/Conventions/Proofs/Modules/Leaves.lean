import Conventions.Modules.Leaves
import Conventions.Proofs.Path.Spelling

/-!
# Leaves among items with paths

Of items in any order, repeated ones among them, the leaves are those whose path is above that of no
other item. Every item contains a leaf, the deepest of the items that it contains. How the paths
are spelled does not matter.
-/

namespace Conventions

namespace RepoPath

/-- A path is above another one if its components are the first ones of the other, but not all. -/
def IsAbove (path other : RepoPath) : Prop :=
  path.components <+: other.components ∧ path.components ≠ other.components

/-- A path is above those that it contains and that have more components. -/
theorem isAbove_iff {path other : RepoPath} : path.IsAbove other ↔
    path.contains other = true ∧ path.components.length < other.components.length := by
  rw [IsAbove, contains_iff]
  constructor
  · rintro ⟨hstart, hne⟩
    refine ⟨hstart, ?_⟩
    by_contra hlength
    exact hne (hstart.eq_of_length_le (by omega))
  · rintro ⟨hstart, hlength⟩
    refine ⟨hstart, fun heq => ?_⟩
    rw [heq] at hlength
    omega

/-- A path that is not empty is above those that are spelled as it with a separator and any text
behind, other spellings of the path itself apart. -/
theorem isAbove_iff_respelled {path other : RepoPath} (h : path.text ≠ "") :
    path.IsAbove other ↔
      (∃ rest, Respelled ⟨path.text ++ "/" ++ rest⟩ other) ∧ ¬path.Respelled other := by
  rw [IsAbove, ← contains_iff, contains_iff_respelled h, ne_eq, components_eq_iff_respelled]

/-- A path holds those that it is above. -/
theorem holds_iff_isAbove {path other : RepoPath} :
    path.holds other = true ↔ path.IsAbove other := by
  rw [holds, Bool.and_eq_true, Bool.not_eq_true', ← Bool.not_eq_true, same_iff, contains_iff,
    IsAbove, and_comm, ← ne_eq, ne_comm]

/-- A path holds those that it contains and that have more components. -/
theorem holds_iff {path other : RepoPath} : path.holds other = true ↔
    path.contains other = true ∧ path.components.length < other.components.length :=
  holds_iff_isAbove.trans isAbove_iff

end RepoPath

section

variable {α : Type} {pathOf : α → RepoPath} {items : List α}

/-- An item is a leaf among items if its path is above none of theirs. -/
def IsLeaf (pathOf : α → RepoPath) (items : List α) (item : α) : Prop :=
  ∀ other ∈ items, ¬(pathOf item).IsAbove (pathOf other)

/-- The test that picks the leaves tells which items are leaves. -/
theorem isLeaf_iff {item : α} : IsLeaf pathOf items item ↔
    (!items.any fun other => (pathOf item).holds (pathOf other)) = true := by
  simp [IsLeaf, ← RepoPath.holds_iff_isAbove]

instance (item : α) : Decidable (IsLeaf pathOf items item) := decidable_of_iff _ isLeaf_iff.symm

/-- The leaves are the items that are leaves. -/
theorem mem_leaves_iff {item : α} :
    item ∈ leaves pathOf items ↔ item ∈ items ∧ IsLeaf pathOf items item := by
  rw [leaves, List.mem_filter, isLeaf_iff]

/-- No leaf holds another item. -/
theorem holds_eq_false_of_leaf {leaf other : α} (hleaf : leaf ∈ leaves pathOf items)
    (hother : other ∈ items) : (pathOf leaf).holds (pathOf other) = false := by
  rw [← Bool.not_eq_true, RepoPath.holds_iff_isAbove]
  exact (mem_leaves_iff.mp hleaf).2 other hother

/-- Every item has a leaf below it, which may be the item itself: the deepest of all items
below it. -/
theorem exists_leaf_below (pathOf : α → RepoPath) {item : α} (h : item ∈ items) :
    ∃ leaf ∈ leaves pathOf items, (pathOf item).contains (pathOf leaf) = true := by
  let below := items.filter fun other => (pathOf item).contains (pathOf other)
  have hself : item ∈ below :=
    List.mem_filter.mpr ⟨h, RepoPath.contains_iff.mpr (List.prefix_refl _)⟩
  have hne : below ≠ [] := List.ne_nil_of_mem hself
  let depth := fun other => (pathOf other).components.length
  let leaf := below.maxOn depth hne
  have hdeepest : ∀ other ∈ below, depth other ≤ depth leaf := fun other hother =>
    List.le_apply_maxOn_of_mem hother
  obtain ⟨hleaf, hcontains⟩ := List.mem_filter.mp (List.maxOn_mem (f := depth) (h := hne))
  refine ⟨leaf, mem_leaves_iff.mpr ⟨hleaf, ?_⟩, hcontains⟩
  -- An item below the deepest one would be below the given one as well, and deeper.
  intro other hother habove
  obtain ⟨hlower, hlength⟩ := RepoPath.isAbove_iff.mp habove
  have hbelow : other ∈ below :=
    List.mem_filter.mpr ⟨hother, RepoPath.contains_trans hcontains hlower⟩
  have hdepth := hdeepest other hbelow
  simp only [depth] at hdepth
  omega

/-- Some of the items, in their order, are all among the leaves if each of them is a leaf. -/
theorem sublist_leaves {kept : List α} (h : kept.Sublist items)
    (hleaf : ∀ item ∈ kept, IsLeaf pathOf items item) : kept.Sublist (leaves pathOf items) := by
  have hkept := h.filter fun item => !items.any fun other => (pathOf item).holds (pathOf other)
  rwa [List.filter_eq_self.mpr fun item hitem => isLeaf_iff.mp (hleaf item hitem)] at hkept

/-- Among the leaves alone, all of them are leaves. -/
theorem leaves_leaves (pathOf : α → RepoPath) (items : List α) :
    leaves pathOf (leaves pathOf items) = leaves pathOf items := by
  refine List.filter_eq_self.mpr fun leaf hleaf => isLeaf_iff.mp fun other hother => ?_
  exact (mem_leaves_iff.mp hleaf).2 other (mem_leaves_iff.mp hother).1

/-- The leaves depend on the components of the paths only. -/
theorem leaves_congr {spelled : α → RepoPath}
    (h : ∀ item ∈ items, (spelled item).components = (pathOf item).components) :
    leaves spelled items = leaves pathOf items := by
  refine List.filter_congr fun item hitem => ?_
  rw [Bool.eq_iff_iff, ← isLeaf_iff, ← isLeaf_iff]
  simp only [IsLeaf, RepoPath.IsAbove, h item hitem]
  refine forall₂_congr fun other hother => ?_
  rw [h other hother]

/-- The leaves are some of the items, in their order: exactly those whose path is above that of no
item, each as often as it is there. Every item has a path that is that of a leaf or above it. The
leaves of the leaves are the leaves, and with other spellings of the paths they are the same. -/
theorem leaves_are_lowest (pathOf : α → RepoPath) (items : List α) :
    (leaves pathOf items).Sublist items ∧
    (∀ item, item ∈ leaves pathOf items ↔ item ∈ items ∧ IsLeaf pathOf items item) ∧
    (∀ kept : List α, kept.Sublist items → (∀ item ∈ kept, IsLeaf pathOf items item) →
      kept.Sublist (leaves pathOf items)) ∧
    (∀ item ∈ items, ∃ leaf ∈ leaves pathOf items,
      (pathOf item).components <+: (pathOf leaf).components) ∧
    leaves pathOf (leaves pathOf items) = leaves pathOf items ∧
    ∀ spelled : α → RepoPath, (∀ item ∈ items, (spelled item).Respelled (pathOf item)) →
      leaves spelled items = leaves pathOf items := by
  refine ⟨List.filter_sublist, fun item => mem_leaves_iff, fun kept => sublist_leaves, ?_,
    leaves_leaves pathOf items, ?_⟩
  · intro item hitem
    obtain ⟨leaf, hleaf, hcontains⟩ := exists_leaf_below pathOf hitem
    exact ⟨leaf, hleaf, RepoPath.contains_iff.mp hcontains⟩
  · intro spelled hspelled
    apply leaves_congr
    intro item hitem
    exact RepoPath.components_eq_iff_respelled.mpr (hspelled item hitem)

/-- Directories in each other, two of them twice, and some spelled in other ways. -/
def nestedPaths : List RepoPath :=
  [⟨"/r/a"⟩, ⟨"/r//a/./b/"⟩, ⟨"/r/ab"⟩, ⟨"/r/a/b"⟩, ⟨"/r/a/."⟩, ⟨"/r/ab"⟩]

/-- Of directories in each other the lowest ones are left, also those that are there twice. They
are the same ones if all are spelled plainly. -/
theorem leaves_nestedPaths :
    leaves id nestedPaths = [⟨"/r//a/./b/"⟩, ⟨"/r/ab"⟩, ⟨"/r/a/b"⟩, ⟨"/r/ab"⟩] ∧
    (∃ leaf ∈ leaves id nestedPaths, (RepoPath.mk "/r/a/.").components <+: leaf.components) ∧
    [⟨"/r/ab"⟩, ⟨"/r/ab"⟩].Sublist (leaves id nestedPaths) ∧
    leaves (fun path => RepoPath.plain path.components) nestedPaths = leaves id nestedPaths := by
  obtain ⟨-, -, hall, hcovers, -, hspellings⟩ := leaves_are_lowest id nestedPaths
  exact ⟨by decide +kernel, hcovers ⟨"/r/a/."⟩ (by decide), hall _ (by decide) (by decide +kernel),
    hspellings _ fun path _ => path.respelled_plain⟩

end

end Conventions
