import Mathlib.Data.List.Induction
import Mathlib.Data.List.Nodup

/-!
# First mentions

Of a list in which names occur more than once, the first mention of each is kept. So names that
are mentioned again add nothing, and it does not matter whether a list was cleared of them before
others are put behind it.
-/

namespace Conventions

variable {α : Type} [BEq α] [LawfulBEq α] {names : List α}

/-- Of a list of names the first mention of each is kept. -/
theorem eraseDups_append_singleton (names : List α) (name : α) [Decidable (name ∈ names)] :
    (names ++ [name]).eraseDups =
      if name ∈ names then names.eraseDups else names.eraseDups ++ [name] := by
  rw [List.eraseDups_append]
  split
  · next h => simp [List.removeAll, h]
  · next h => simp [List.removeAll, h, List.eraseDups_cons]

/-- Names that are mentioned already add nothing. -/
theorem eraseDups_append_of_subset {mentions : List α} (h : mentions ⊆ names) :
    (names ++ mentions).eraseDups = names.eraseDups := by
  have hnone : mentions.removeAll names = [] := by
    simpa [List.removeAll] using fun name hname => h hname
  simp [List.eraseDups_append, hnone]

/-- Of a list of names each is kept once. -/
theorem nodup_eraseDups (names : List α) : names.eraseDups.Nodup := by
  classical
  induction names using List.reverseRecOn with
  | nil => exact List.nodup_nil
  | append_singleton names name ih =>
    rw [eraseDups_append_singleton]
    split
    · exact ih
    · next h => simpa using ih.concat fun hmem => h (List.mem_eraseDups.mp hmem)

/-- Names that are all different are all kept. -/
theorem eraseDups_of_nodup (h : names.Nodup) : names.eraseDups = names := by
  classical
  induction names using List.reverseRecOn with
  | nil => rfl
  | append_singleton names name ih =>
    obtain ⟨hnames, -, hnew⟩ := List.nodup_append.mp h
    rw [eraseDups_append_singleton, ih hnames,
      if_neg fun hmem => hnew _ hmem _ (List.mem_singleton_self name) rfl]

/-- What was mentioned twice before does not matter to what comes behind. -/
theorem eraseDups_eraseDups_append (names mentions : List α) :
    (names.eraseDups ++ mentions).eraseDups = (names ++ mentions).eraseDups := by
  have hknown : mentions.removeAll names.eraseDups = mentions.removeAll names := by
    simp only [List.removeAll, List.elem_eq_mem, List.mem_eraseDups]
  rw [List.eraseDups_append, List.eraseDups_append, hknown,
    eraseDups_of_nodup (nodup_eraseDups names)]

/-- Names that follow others, all of them different: only the new ones are added. -/
theorem eraseDups_append_of_nodup {α : Type} [DecidableEq α] {names mentions : List α}
    (hnames : names.Nodup) (hmentions : mentions.Nodup) :
    (names ++ mentions).eraseDups = names ++ mentions.filter (· ∉ names) := by
  have hnew : mentions.removeAll names = mentions.filter (· ∉ names) :=
    List.filter_congr fun name _ => by simp
  rw [List.eraseDups_append, hnew, eraseDups_of_nodup hnames,
    eraseDups_of_nodup (hmentions.sublist List.filter_sublist)]

end Conventions
