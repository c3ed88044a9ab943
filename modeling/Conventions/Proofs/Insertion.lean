import Conventions.Proofs.Entries
import Conventions.Proofs.Except
import Mathlib.Data.List.Nodup

/-!
# Entries in insertion order

Looking up a key behind an insertion, which insertions can change places, and what keeps the
keys apart. An insertion under a known key leaves all keys where they are.
-/

namespace Conventions.Entries

variable {α : Type}

/-- An insertion looks at the entries one by one. -/
theorem insert_cons (key k : String) (value v : α) (rest : Entries α) :
    insert key value ((k, v) :: rest) =
      if k = key then (key, value) :: rest else (k, v) :: insert key value rest := rfl

/-- Behind an insertion the new value is found under its key, and nothing else changes. -/
theorem find?_insert (key other : String) (value : α) (entries : Entries α) :
    (insert key value entries).find? other =
      if key = other then some value else entries.find? other := by
  induction entries with
  | nil => rfl
  | cons entry rest ih =>
    obtain ⟨k, v⟩ := entry
    unfold insert
    by_cases heq : k = key
    · subst heq
      rw [if_pos rfl]
      by_cases hother : k = other
      · simp [find?, hother]
      · simp [find?, hother]
    · rw [if_neg heq]
      by_cases hother : k = other
      · subst hother
        simp [find?, Ne.symm heq]
      · simpa [find?, hother] using ih

/-- Nothing is found under a key exactly if it is not there. -/
theorem find?_eq_none_iff {key : String} {entries : Entries α} :
    entries.find? key = none ↔ key ∉ entries.keys := by
  induction entries with
  | nil => simp [find?, keys]
  | cons entry rest ih =>
    obtain ⟨k, v⟩ := entry
    by_cases heq : k = key
    · simp [find?, keys, heq]
    · simpa [find?, keys, heq, Ne.symm heq] using ih

/-- Where all keys are different, each value is found under its key. -/
theorem find?_of_mem {key : String} {value : α} {entries : Entries α} (h : entries.keys.Nodup)
    (hentry : (key, value) ∈ entries) : entries.find? key = some value := by
  induction entries with
  | nil => cases hentry
  | cons entry rest ih =>
    obtain ⟨hfirst, hrest⟩ := List.nodup_cons.mp h
    rcases List.mem_cons.mp hentry with rfl | hentry
    · simp [find?]
    · have hne : entry.1 ≠ key := by
        rintro rfl
        exact hfirst (List.mem_map_of_mem (f := (·.1)) hentry)
      rw [find?, if_neg hne, ih hrest hentry]

/-- Entries with the same keys, none of them twice, and the same under each are the same. -/
theorem ext_of_keys {a b : Entries α} (h : a.keys.Nodup) (hkeys : a.keys = b.keys)
    (hfind : ∀ key, a.find? key = b.find? key) : a = b := by
  induction a generalizing b with
  | nil => exact (List.map_eq_nil_iff.mp hkeys.symm).symm
  | cons entry rest ih =>
    obtain ⟨k, v⟩ := entry
    cases b with
    | nil => cases hkeys
    | cons entry' rest' =>
      obtain ⟨k', v'⟩ := entry'
      obtain ⟨rfl, hrest⟩ := List.cons.inj hkeys
      obtain ⟨hfirst, hnodup⟩ := List.nodup_cons.mp h
      have hfirst' : k ∉ keys rest' := by rwa [keys, ← hrest]
      obtain rfl : v = v' := by simpa [find?] using hfind k
      refine congrArg _ (ih hnodup hrest fun key => ?_)
      by_cases heq : k = key
      · subst heq
        rw [find?_eq_none_iff.mpr hfirst, find?_eq_none_iff.mpr hfirst']
      · simpa [find?, heq] using hfind key

/-- A key is there exactly if something is found under it. -/
theorem mem_keys_iff_isSome {key : String} {entries : Entries α} :
    key ∈ entries.keys ↔ (entries.find? key).isSome = true := by
  rw [← not_iff_not, ← find?_eq_none_iff, Bool.not_eq_true, Option.isSome_eq_false_iff,
    Option.isNone_iff_eq_none]

/-- An insertion adds its key and no other. -/
theorem mem_keys_insert {key other : String} {value : α} {entries : Entries α} :
    other ∈ (insert key value entries).keys ↔ other = key ∨ other ∈ entries.keys := by
  rw [← not_iff_not, not_or, ← find?_eq_none_iff, ← find?_eq_none_iff, find?_insert]
  by_cases heq : key = other
  · simp [heq]
  · simp [heq, Ne.symm heq]

/-- An insertion puts a new key at the end. -/
theorem keys_insert (key : String) (value : α) (entries : Entries α) :
    (insert key value entries).keys =
      if key ∈ entries.keys then entries.keys else entries.keys ++ [key] := by
  induction entries with
  | nil => rfl
  | cons entry rest ih =>
    obtain ⟨k, v⟩ := entry
    rw [insert_cons]
    by_cases heq : k = key
    · simp [keys, heq]
    · have hmem : key ∈ keys ((k, v) :: rest) ↔ key ∈ keys rest := by
        simp [keys, Ne.symm heq]
      rw [if_neg heq, keys, List.map_cons, ← keys, ih]
      by_cases hrest : key ∈ keys rest
      · rw [if_pos hrest, if_pos (hmem.mpr hrest)]
        rfl
      · rw [if_neg hrest, if_neg (mt hmem.mp hrest)]
        rfl

/-- An insertion keeps the keys apart. -/
theorem nodup_keys_insert {entries : Entries α} (h : entries.keys.Nodup) (key : String)
    (value : α) : (insert key value entries).keys.Nodup := by
  induction entries with
  | nil => simp [insert, keys]
  | cons entry rest ih =>
    obtain ⟨k, v⟩ := entry
    obtain ⟨hfirst, hrest⟩ := List.nodup_cons.mp h
    unfold insert
    by_cases heq : k = key
    · subst heq
      rw [if_pos rfl]
      exact h
    · rw [if_neg heq]
      refine List.nodup_cons.mpr ⟨fun hmem => ?_, ih hrest⟩
      rcases mem_keys_insert.mp hmem with hk | hk
      · exact heq hk
      · exact hfirst hk

/-- The later one of two insertions under a key counts. -/
theorem insert_insert_self (key : String) (value other : α) (entries : Entries α) :
    insert key value (insert key other entries) = insert key value entries := by
  induction entries with
  | nil => simp [insert]
  | cons entry rest ih =>
    by_cases heq : entry.1 = key
    · simp [insert, heq]
    · simp [insert, heq, ih]

/-- What is found under a key can be inserted again without any change. -/
theorem insert_of_find? {key : String} {value : α} {entries : Entries α}
    (h : entries.find? key = some value) : insert key value entries = entries := by
  induction entries with
  | nil => cases h
  | cons entry rest ih =>
    obtain ⟨k, v⟩ := entry
    rw [insert_cons]
    by_cases heq : k = key
    · subst heq
      obtain rfl : v = value := by simpa [find?] using h
      rw [if_pos rfl]
    · rw [if_neg heq, ih (by simpa [find?, heq] using h)]

/-- Insertions under two keys can change places if the first one is known. -/
theorem insert_comm {key other : String} (hne : key ≠ other) {entries : Entries α}
    (hknown : key ∈ entries.keys) (value second : α) :
    insert key value (insert other second entries) =
      insert other second (insert key value entries) := by
  induction entries with
  | nil => cases hknown
  | cons entry rest ih =>
    obtain ⟨k, v⟩ := entry
    by_cases hkey : k = key
    · subst hkey
      simp [insert, hne]
    · by_cases hother : k = other
      · subst hother
        simp [insert, hkey]
      · have hrest : key ∈ Entries.keys rest :=
          (List.mem_cons.mp hknown).resolve_left fun heq => hkey heq.symm
        simp [insert, hkey, hother, ih hrest]

/-- An insertion behind entries that do not have its key. -/
theorem insert_append_of_notMem {key : String} {before : Entries α} (h : key ∉ before.keys)
    (value : α) (rest : Entries α) : insert key value (before ++ rest) =
      before ++ insert key value rest := by
  induction before with
  | nil => rfl
  | cons entry before ih =>
    rw [keys, List.map_cons, List.mem_cons, not_or] at h
    simp [insert, Ne.symm h.1, ih h.2]

/-- Where all keys are different, an insertion puts its value in the place of the one that is
there. -/
theorem insert_append_cons {key : String} {before after : Entries α} {old : α}
    (h : (keys (before ++ (key, old) :: after)).Nodup) (value : α) :
    insert key value (before ++ (key, old) :: after) = before ++ (key, value) :: after := by
  rw [keys, List.map_append, List.map_cons, List.nodup_append] at h
  have hnew : key ∉ before.keys := fun hmem => h.2.2 _ hmem _ List.mem_cons_self rfl
  rw [insert_append_of_notMem hnew, insert_cons, if_pos rfl]

/-- The entries of a list of pairs have different keys. -/
theorem nodup_keys_ofPairs (pairs : List (String × α)) : (ofPairs pairs).keys.Nodup := by
  have hrun : ∀ entries : Entries α, entries.keys.Nodup →
      (pairs.foldl (fun entries pair => insert pair.1 pair.2 entries) entries).keys.Nodup := by
    induction pairs with
    | nil => exact fun entries h => h
    | cons pair rest ih => exact fun entries h => ih _ (nodup_keys_insert h pair.1 pair.2)
  exact hrun [] List.nodup_nil

/-- Pairs with different keys are the entries themselves. -/
theorem ofPairs_of_nodup {pairs : Entries α} (h : pairs.keys.Nodup) : ofPairs pairs = pairs := by
  -- From any entries that the keys are apart from, the pairs are put behind these entries.
  have hrun : ∀ entries : Entries α, (entries ++ pairs).keys.Nodup →
      pairs.foldl (fun entries pair => insert pair.1 pair.2 entries) entries =
        entries ++ pairs := by
    clear h
    induction pairs with
    | nil => simp
    | cons pair rest ih =>
      intro entries hentries
      have hnew : pair.1 ∉ entries.keys := by
        unfold keys at hentries
        rw [List.map_append, List.map_cons, List.nodup_append] at hentries
        exact fun hmem => hentries.2.2 _ hmem _ List.mem_cons_self rfl
      have hinsert : insert pair.1 pair.2 entries = entries ++ [pair] := by
        simpa [insert] using insert_append_of_notMem hnew pair.2 []
      rw [List.foldl_cons, hinsert, ih]
      · simp
      · simpa using hentries
  exact hrun [] h

/-- In the entries of pairs with different keys, each key has its own value. -/
theorem find?_sorted {pairs : Entries α} (h : pairs.keys.Nodup) (key : String) :
    (sorted pairs).find? key = pairs.find? key := by
  have hrun : ∀ entries : Entries α,
      (pairs.foldl (fun entries pair => insertSorted pair.1 pair.2 entries) entries).find? key =
        (pairs.find? key).or (entries.find? key) := by
    induction pairs with
    | nil => exact fun entries => rfl
    | cons pair rest ih =>
      intro entries
      obtain ⟨hfirst, hrest⟩ := List.nodup_cons.mp h
      rw [List.foldl_cons, ih hrest, find?_insertSorted]
      by_cases heq : pair.1 = key
      · subst heq
        simp [find?, find?_eq_none_iff.mpr hfirst]
      · simp [find?, heq]
  exact (hrun []).trans Option.or_none

/-! ### Changes that leave entries out -/

section

variable {β : Type} (change : String → α → Option β)

/-- The entries that a change leaves, with the values it gives them. -/
theorem find?_filterMap_of_nodup {entries : Entries α} (h : entries.keys.Nodup) (key : String) :
    find? key (entries.filterMap fun entry => (change entry.1 entry.2).map (entry.1, ·)) =
      (entries.find? key).bind (change key) := by
  induction entries with
  | nil => rfl
  | cons entry rest ih =>
    obtain ⟨k, v⟩ := entry
    obtain ⟨hfirst, hrest⟩ := List.nodup_cons.mp h
    by_cases heq : k = key
    · subst heq
      cases hchange : change k v with
      | none =>
        rw [List.filterMap_cons_none (by simp [hchange]), ih hrest,
          find?_eq_none_iff.mpr hfirst]
        simp [find?, hchange]
      | some new =>
        rw [List.filterMap_cons_some (b := (k, new)) (by simp [hchange])]
        simp [find?, hchange]
    · cases hchange : change k v with
      | none =>
        rw [List.filterMap_cons_none (by simp [hchange]), ih hrest]
        simp [find?, heq]
      | some new =>
        rw [List.filterMap_cons_some (b := (k, new)) (by simp [hchange])]
        simp [find?, heq, ih hrest]

/-- A change that leaves entries out does not add keys. -/
theorem nodup_keys_filterMap {entries : Entries α} (h : entries.keys.Nodup) :
    (keys (entries.filterMap fun entry =>
      (change entry.1 entry.2).map (entry.1, ·))).Nodup := by
  refine List.Nodup.sublist ?_ h
  induction entries with
  | nil => exact List.Sublist.slnil
  | cons entry rest ih =>
    have hrest := ih (List.nodup_cons.mp h).2
    cases hchange : change entry.1 entry.2 with
    | none =>
      rw [List.filterMap_cons_none (by simp [hchange])]
      exact hrest.cons entry.1
    | some new =>
      rw [List.filterMap_cons_some (b := (entry.1, new)) (by simp [hchange])]
      exact hrest.cons_cons entry.1

end

/-! ### Steps that keep the keys -/

variable {ε β : Type} {step : String × α → Except ε (String × β)}
  (hstep : ∀ {entry result}, step entry = .ok result → result.1 = entry.1)
include hstep

/-- Where each step keeps the key of its entry, the keys stay. -/
theorem keys_of_mapM {entries : Entries α} {results : Entries β}
    (h : entries.mapM step = .ok results) : results.keys = entries.keys :=
  map_eq_of_mapM hstep h

/-- What is found behind such steps comes from what was found before. -/
theorem find?_of_mapM {entries : Entries α} {results : Entries β}
    (h : entries.mapM step = .ok results) {key : String} {result : β}
    (hresult : results.find? key = some result) :
    ∃ value, entries.find? key = some value ∧ step (key, value) = .ok (key, result) := by
  induction entries generalizing results with
  | nil =>
    cases h
    cases hresult
  | cons entry rest ih =>
    rw [List.mapM_cons] at h
    obtain ⟨first, hfirst, h⟩ := bind_eq_ok_iff.mp h
    obtain ⟨others, hothers, h⟩ := bind_eq_ok_iff.mp h
    cases h
    obtain ⟨k, v⟩ := entry
    obtain ⟨k', new⟩ := first
    obtain rfl : k' = k := hstep hfirst
    by_cases heq : k' = key
    · subst heq
      simp only [find?, if_pos] at hresult ⊢
      obtain rfl := Option.some.inj hresult
      exact ⟨v, rfl, hfirst⟩
    · simp only [find?, if_neg heq] at hresult ⊢
      exact ih hothers hresult

/-- Such steps can be taken behind an insertion as well, and their results differ in its key. -/
theorem mapM_insert {entries : Entries α} {results : Entries β}
    (h : entries.mapM step = .ok results) {key : String} {value : α} {new : β}
    (hnew : step (key, value) = .ok (key, new)) :
    (insert key value entries).mapM step = .ok (insert key new results) := by
  induction entries generalizing results with
  | nil =>
    cases h
    simp [insert, hnew]
  | cons entry rest ih =>
    rw [List.mapM_cons] at h
    obtain ⟨first, hfirst, h⟩ := bind_eq_ok_iff.mp h
    obtain ⟨others, hothers, h⟩ := bind_eq_ok_iff.mp h
    cases h
    obtain ⟨k, v⟩ := entry
    obtain ⟨k', old⟩ := first
    obtain rfl : k' = k := hstep hfirst
    rw [insert_cons, insert_cons]
    by_cases heq : k' = key
    · rw [if_pos heq, if_pos heq, List.mapM_cons, hnew, hothers]
      rfl
    · rw [if_neg heq, if_neg heq, List.mapM_cons, hfirst, ih hothers]
      rfl

end Conventions.Entries
