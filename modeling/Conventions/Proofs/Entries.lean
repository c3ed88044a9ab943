import Conventions.Entries
import Conventions.Proofs.Sorting

/-!
# Entries that ascend by key

Looking up a key behind an insertion or a change, and what keeps the keys in ascending
order. For looking up it does not matter whether they ascend: an insertion always comes
before the next entry with its key.
-/

namespace Conventions.Entries

variable {α : Type}

/-- Behind an insertion the new value is found under its key, and nothing else changes. -/
theorem find?_insertSorted (key other : String) (value : α) (entries : Entries α) :
    (insertSorted key value entries).find? other =
      if key = other then some value else entries.find? other := by
  induction entries with
  | nil => rfl
  | cons entry rest ih =>
    obtain ⟨k, v⟩ := entry
    unfold insertSorted
    by_cases hlt : textBefore key k = true
    · rw [if_pos hlt]
      rfl
    · rw [if_neg hlt]
      by_cases heq : k = key
      · subst heq
        rw [if_pos rfl]
        by_cases hother : k = other
        · simp [find?, hother]
        · simp [find?, hother]
      · rw [if_neg heq]
        by_cases hother : k = other
        · subst hother
          simp [find?, Ne.symm heq]
        · simpa [find?, hother] using ih

/-- A change under a key is seen under this key only. -/
theorem find?_modify (key other : String) (change : α → α) (entries : Entries α) :
    (modify key change entries).find? other =
      if key = other then (entries.find? other).map change else entries.find? other := by
  induction entries with
  | nil => simp [modify, find?]
  | cons entry rest ih =>
    obtain ⟨k, v⟩ := entry
    unfold modify
    by_cases heq : k = key
    · subst heq
      rw [if_pos rfl]
      by_cases hother : k = other
      · simp [find?, hother]
      · simp [find?, hother]
    · rw [if_neg heq]
      by_cases hother : k = other
      · subst hother
        simp [find?, Ne.symm heq]
      · simpa [find?, hother] using ih

/-- Entries whose keys ascend, so that no key occurs twice. -/
def Ascending (entries : Entries α) : Prop := entries.Pairwise fun a b => textBefore a.1 b.1 = true

/-- An insertion only adds its own key. -/
theorem mem_insertSorted {key : String} {value : α} {entries : Entries α} {entry : String × α}
    (h : entry ∈ insertSorted key value entries) : entry = (key, value) ∨ entry ∈ entries := by
  induction entries with
  | nil => simpa [insertSorted] using h
  | cons first rest ih =>
    obtain ⟨k, v⟩ := first
    unfold insertSorted at h
    split at h
    · simpa using h
    · split at h
      · rcases List.mem_cons.mp h with h | h
        · exact Or.inl h
        · exact Or.inr (List.mem_cons_of_mem _ h)
      · rcases List.mem_cons.mp h with h | h
        · exact Or.inr (by simp [h])
        · rcases ih h with h | h
          · exact Or.inl h
          · exact Or.inr (List.mem_cons_of_mem _ h)

/-- An insertion loses no entry. -/
theorem length_le_insertSorted (key : String) (value : α) (entries : Entries α) :
    entries.length ≤ (insertSorted key value entries).length := by
  induction entries with
  | nil => exact Nat.zero_le _
  | cons entry rest ih =>
    unfold insertSorted
    split_ifs
    · exact Nat.le_succ _
    · exact Nat.le_refl _
    · exact Nat.succ_le_succ ih

/-- An insertion under a new key is not seen among entries that are kept without it. -/
theorem filter_insertSorted {keep : String × α → Bool} {key : String} {value : α}
    {entries : Entries α} (hkeep : keep (key, value) = false) (hnew : key ∉ entries.keys) :
    (insertSorted key value entries).filter keep = entries.filter keep := by
  have hdropped : ¬ keep (key, value) = true := by simp [hkeep]
  induction entries with
  | nil => exact List.filter_cons_of_neg hdropped
  | cons entry rest ih =>
    obtain ⟨k, v⟩ := entry
    obtain ⟨hne, hrest⟩ := List.ne_and_not_mem_of_not_mem_cons hnew
    unfold insertSorted
    split
    · exact List.filter_cons_of_neg hdropped
    · rw [if_neg (Ne.symm hne), List.filter_cons, List.filter_cons, ih hrest]

/-- An insertion keeps the keys in order. -/
theorem Ascending.insertSorted {entries : Entries α} (h : entries.Ascending) (key : String)
    (value : α) : (insertSorted key value entries).Ascending := by
  induction entries with
  | nil => exact List.pairwise_singleton _ _
  | cons first rest ih =>
    obtain ⟨k, v⟩ := first
    obtain ⟨hfirst, hrest⟩ := List.pairwise_cons.mp h
    unfold Entries.insertSorted
    by_cases hlt : textBefore key k = true
    · rw [if_pos hlt]
      refine List.pairwise_cons.mpr ⟨fun entry hentry => ?_, h⟩
      rcases List.mem_cons.mp hentry with rfl | hentry
      · exact hlt
      · exact isLinear_textBefore.trans hlt (hfirst entry hentry)
    · rw [if_neg hlt]
      by_cases heq : k = key
      · subst heq
        rw [if_pos rfl]
        exact List.pairwise_cons.mpr ⟨hfirst, hrest⟩
      · rw [if_neg heq]
        have hgt : textBefore k key = true := by
          by_contra hnot
          exact heq (isLinear_textBefore.eq_of_not (by simpa using hnot) (by simpa using hlt))
        refine List.pairwise_cons.mpr ⟨fun entry hentry => ?_, ih hrest⟩
        rcases mem_insertSorted hentry with rfl | hentry
        · exact hgt
        · exact hfirst entry hentry

/-- A change under a key keeps the keys. -/
theorem keys_modify (key : String) (change : α → α) (entries : Entries α) :
    (modify key change entries).keys = entries.keys := by
  induction entries with
  | nil => rfl
  | cons entry rest ih =>
    unfold modify
    split
    · rfl
    · exact congrArg (entry.1 :: ·) ih

/-- A change under a key keeps the keys in order. -/
theorem Ascending.modify {entries : Entries α} (h : entries.Ascending) (key : String)
    (change : α → α) : (modify key change entries).Ascending := by
  have hkeys : entries.keys.Pairwise fun a b => textBefore a b = true := List.pairwise_map.mpr h
  rw [← keys_modify key change] at hkeys
  exact List.pairwise_map.mp hkeys

/-- Insertions one after the other keep the keys in order. -/
theorem Ascending.foldl_insertSorted {entries : Entries α} (h : entries.Ascending)
    (pairs : List (String × α)) :
    (pairs.foldl (fun entries pair => Entries.insertSorted pair.1 pair.2 entries)
      entries).Ascending := by
  induction pairs generalizing entries with
  | nil => exact h
  | cons pair rest ih => exact ih (h.insertSorted pair.1 pair.2)

/-- Insertions one after the other only add what is inserted. -/
theorem mem_foldl_insertSorted {pairs entries : Entries α} {entry : String × α}
    (h : entry ∈ pairs.foldl (fun entries pair => insertSorted pair.1 pair.2 entries) entries) :
    entry ∈ pairs ∨ entry ∈ entries := by
  induction pairs generalizing entries with
  | nil => exact Or.inr h
  | cons pair rest ih =>
    rcases ih h with hrest | hinserted
    · exact Or.inl (List.mem_cons_of_mem _ hrest)
    · rcases mem_insertSorted hinserted with rfl | hentry
      · exact Or.inl List.mem_cons_self
      · exact Or.inr hentry

/-- The entries of a list of pairs are in order. -/
theorem ascending_sorted (pairs : List (String × α)) : (sorted pairs).Ascending :=
  Ascending.foldl_insertSorted List.Pairwise.nil pairs

/-- Ascending keys are all different. -/
theorem Ascending.nodup_keys {entries : Entries α} (h : entries.Ascending) :
    entries.keys.Nodup := by
  refine List.pairwise_map.mpr (h.imp fun hbefore heq => ?_)
  rw [heq, isLinear_textBefore.irrefl] at hbefore
  cases hbefore

/-- In ascending entries nothing else is found under the first key. -/
theorem Ascending.find?_tail {key : String} {value : α} {rest : Entries α}
    (h : Ascending ((key, value) :: rest)) : rest.find? key = none := by
  obtain ⟨hfirst, -⟩ := List.pairwise_cons.mp h
  clear h
  induction rest with
  | nil => rfl
  | cons entry rest ih =>
    obtain ⟨k, v⟩ := entry
    have hne : k ≠ key := by
      rintro rfl
      have hself := hfirst (k, v) (by simp)
      rw [isLinear_textBefore.irrefl] at hself
      cases hself
    rw [find?, if_neg hne]
    exact ih fun entry hentry => hfirst entry (List.mem_cons_of_mem _ hentry)

/-- What is found under a key is there with it. -/
theorem mem_of_find? {key : String} {value : α} {entries : Entries α}
    (h : entries.find? key = some value) : (key, value) ∈ entries := by
  induction entries with
  | nil => cases h
  | cons entry rest ih =>
    obtain ⟨k, v⟩ := entry
    unfold find? at h
    split at h
    · next heq =>
      cases h
      rw [heq]
      exact List.mem_cons_self
    · exact List.mem_cons_of_mem _ (ih h)

/-- In ascending entries the first key comes before any other under which something is found. -/
theorem Ascending.before_of_find? {key other : String} {value found : α} {rest : Entries α}
    (h : Ascending ((key, value) :: rest)) (hfind : find? other ((key, value) :: rest) = some found)
    (hne : key ≠ other) : textBefore key other = true := by
  obtain ⟨hfirst, -⟩ := List.pairwise_cons.mp h
  rw [find?, if_neg hne] at hfind
  exact hfirst (other, found) (mem_of_find? hfind)

/-- Ascending entries in which the same is found under every key are the same. -/
theorem Ascending.ext {a b : Entries α} (ha : a.Ascending) (hb : b.Ascending)
    (h : ∀ key, a.find? key = b.find? key) : a = b := by
  induction a generalizing b with
  | nil =>
    cases b with
    | nil => rfl
    | cons entry rest =>
      have hfound := h entry.1
      simp [find?] at hfound
  | cons entry rest ih =>
    obtain ⟨k, v⟩ := entry
    cases b with
    | nil =>
      have hfound := h k
      simp [find?] at hfound
    | cons entry' rest' =>
      obtain ⟨k', v'⟩ := entry'
      have hk : find? k ((k', v') :: rest') = some v := by rw [← h k, find?, if_pos rfl]
      have hk' : find? k' ((k, v) :: rest) = some v' := by rw [h k', find?, if_pos rfl]
      -- Each first key would come before the other one if they were different.
      obtain rfl : k = k' := by
        by_contra hne
        have hbefore := isLinear_textBefore.asymm (ha.before_of_find? hk' hne)
        rw [hb.before_of_find? hk (Ne.symm hne)] at hbefore
        cases hbefore
      obtain rfl : v = v' := by simpa [find?] using hk'
      have hrest : ∀ key, find? key rest = find? key rest' := by
        intro key
        by_cases hkey : k = key
        · subst hkey
          rw [ha.find?_tail, hb.find?_tail]
        · simpa [find?, hkey] using h key
      rw [ih (List.pairwise_cons.mp ha).2 (List.pairwise_cons.mp hb).2 hrest]

/-- Behind the insertion of ascending entries into others, each key has its value among
the new entries if there is one, and else the one it had. -/
theorem find?_foldl_insertSorted {pairs : Entries α} (h : pairs.Ascending) (entries : Entries α)
    (key : String) :
    (pairs.foldl (fun entries pair => insertSorted pair.1 pair.2 entries) entries).find? key =
      (pairs.find? key).or (entries.find? key) := by
  induction pairs generalizing entries with
  | nil => rfl
  | cons pair rest ih =>
    obtain ⟨k, v⟩ := pair
    have hrest : Ascending rest := (List.pairwise_cons.mp h).2
    rw [List.foldl_cons, ih hrest, find?_insertSorted]
    by_cases heq : k = key
    · subst heq
      simp [h.find?_tail, find?]
    · simp [find?, heq]

end Conventions.Entries
