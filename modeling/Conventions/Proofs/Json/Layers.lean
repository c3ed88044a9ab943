import Conventions.Proofs.Json.Pointwise

/-!
# Entries that are laid over others

Where the earlier values are no tables, a merge of entries only replaces them: the earlier entries
stay in their order, each with its later value if it has one, and the new ones follow in theirs.
-/

namespace Conventions

namespace Entries

variable {α : Type}

/-- In entries behind others, what is found first counts. -/
theorem find?_append (key : String) (before after : Entries α) :
    find? key (before ++ after) = (find? key before).or (find? key after) := by
  induction before with
  | nil => rfl
  | cons entry rest ih =>
    obtain ⟨k, v⟩ := entry
    by_cases heq : k = key <;> simp [find?, heq, ih]

/-- A change of all values is seen under each key. -/
theorem find?_map (key : String) (change : String → α → α) (entries : Entries α) :
    find? key (entries.map fun entry => (entry.1, change entry.1 entry.2)) =
      (find? key entries).map (change key) := by
  induction entries with
  | nil => rfl
  | cons entry rest ih =>
    obtain ⟨k, v⟩ := entry
    by_cases heq : k = key
    · subst heq
      simp [find?]
    · simp [find?, heq, ih]

/-- Where keys are picked, the values under the others are gone. -/
theorem find?_filter (key : String) (pick : String → Bool) (entries : Entries α) :
    find? key (entries.filter fun entry => pick entry.1) =
      if pick key then find? key entries else none := by
  induction entries with
  | nil => simp [find?]
  | cons entry rest ih =>
    obtain ⟨k, v⟩ := entry
    by_cases heq : k = key
    · subst heq
      by_cases hpick : pick k = true <;> simp [find?, hpick, ih]
    · by_cases hpick : pick k = true <;> simp [find?, hpick, heq, ih]

/-- Later entries laid over earlier ones: these stay where they are, each with its later value if
it has one, and the new ones follow. -/
def layered (earlier later : Entries α) : Entries α :=
  earlier.map (fun entry => (entry.1, (find? entry.1 later).getD entry.2)) ++
    later.filter fun entry => entry.1 ∉ keys earlier

/-- Over no entries, the later ones are laid as they are. -/
theorem layered_nil (later : Entries α) : layered [] later = later := by
  simp [layered, keys]

/-- No entries change nothing. -/
theorem layered_nil_right (earlier : Entries α) : layered earlier [] = earlier := by
  simp [layered, find?]

/-- The keys are the earlier ones, and behind them the new ones. -/
theorem keys_layered (earlier later : Entries α) :
    keys (layered earlier later) = keys earlier ++ (keys later).filter (· ∉ keys earlier) := by
  simp [layered, keys, List.filter_map, Function.comp_def]

/-- A later value counts more than an earlier one. -/
theorem find?_layered (key : String) (earlier later : Entries α) :
    find? key (layered earlier later) = (find? key later).or (find? key earlier) := by
  rw [layered, find?_append, find?_map key fun k v => (find? k later).getD v,
    find?_filter key fun k => k ∉ keys earlier]
  cases hearlier : find? key earlier with
  | none =>
    rw [find?_eq_none_iff] at hearlier
    simp [hearlier]
  | some value => cases find? key later <;> rfl

/-- Names that all have the same value are entries in which each name stands once. -/
theorem ofPairs_map_const (names : List String) (value : α) :
    ofPairs (names.map fun name => (name, value)) =
      names.eraseDups.map fun name => (name, value) := by
  have hinsert : ∀ (known : List String) (name : String),
      insert name value (known.map fun name => (name, value)) =
        if name ∈ known then known.map fun name => (name, value)
        else (known ++ [name]).map fun name => (name, value) := by
    intro known name
    induction known with
    | nil => rfl
    | cons first rest ih =>
      by_cases heq : first = name
      · simp [insert, heq]
      · by_cases hmem : name ∈ rest <;> simp [insert, heq, Ne.symm heq, ih, hmem]
  induction names using List.reverseRecOn with
  | nil => rfl
  | append_singleton names name ih =>
    rw [ofPairs] at ih ⊢
    rw [List.map_append, List.foldl_append, ih, List.map_singleton, List.foldl_cons,
      List.foldl_nil, hinsert, eraseDups_append_singleton]
    by_cases hmem : name ∈ names <;> simp [hmem]

end Entries

namespace Json

/-- A merge of two tables has the earlier keys, and behind them the new ones. -/
theorem keys_mergeFields_of_nodup {earlier later : Entries Json} (hearlier : earlier.keys.Nodup)
    (hlater : later.keys.Nodup) : (mergeFields earlier later).keys =
      earlier.keys ++ later.keys.filter (· ∉ earlier.keys) := by
  rw [keys_mergeFields hearlier, eraseDups_append_of_nodup hearlier hlater]

/-- A value that is no table is replaced by whatever is laid over it. -/
theorem mergeWith_eq_right {earlier : Option Json} {later : Json}
    (h : ∀ value ∈ earlier, value.asArray? = none ∧ value.asObject? = none) :
    mergeWith earlier later = later := by
  cases earlier with
  | none => rfl
  | some value =>
    obtain ⟨hitems, hfields⟩ := h value rfl
    exact mergeValue_eq_right (Or.inl hitems) (Or.inl hfields)

/-- Over values that are no tables, later entries are laid as they are. -/
theorem mergeFields_eq_layered {earlier later : Entries Json} (hearlier : earlier.keys.Nodup)
    (hlater : later.keys.Nodup) (hplain : ∀ key value, Entries.find? key earlier = some value →
      value.asArray? = none ∧ value.asObject? = none) :
    mergeFields earlier later = Entries.layered earlier later := by
  refine Entries.ext_of_keys (nodup_keys_mergeFields hearlier later) ?_ fun key => ?_
  · rw [keys_mergeFields_of_nodup hearlier hlater, Entries.keys_layered]
  · rw [find?_mergeFields hlater, Entries.find?_layered]
    cases Entries.find? key later with
    | none => rfl
    | some value => exact congrArg some (mergeWith_eq_right (hplain key))

/-- Tables that were read are laid over each other as such. -/
theorem AreRead.layered {earlier later : Entries Json} (hearlier : AreRead earlier)
    (hlater : AreRead later) : AreRead (Entries.layered earlier later) where
  nodup := by
    rw [Entries.keys_layered, ← eraseDups_append_of_nodup hearlier.nodup hlater.nodup]
    exact nodup_eraseDups _
  isRead h := by
    rw [Entries.find?_layered, Option.or_eq_some_iff] at h
    rcases h with h | ⟨-, h⟩
    · exact hlater.isRead h
    · exact hearlier.isRead h

end Json

end Conventions
