import Conventions.Proofs.Yaml.ToJson
import Conventions.Yaml.Value

/-!
# What is read is sound

In the mappings of a value that is read no two keys are the same, and its numbers are whole numbers
that are not too large, or doubles.
-/

namespace Conventions.Yaml

namespace Plain

open Binary64

/-- A double that is read is one. -/
theorem isDouble_of_unsignedDouble? {negative : Bool} {text : List Char} {value : Binary64}
    (h : unsignedDouble? negative text = some value) : value.IsDouble := by
  unfold unsignedDouble? at h
  simp only [Option.bind_eq_bind, Option.bind_eq_some_iff, Option.pure_def, Option.some.injEq] at h
  obtain ⟨digits, -, power, -, rfl⟩ := h
  exact isDouble_ofDecimal _ _ _

/-- A double that is read from a text is one. -/
theorem isDouble_of_double? {text : String} {value : Binary64} (h : double? text = some value) :
    value.IsDouble := by
  unfold double? at h
  split_ifs at h
  · cases h
    trivial
  · cases h
    trivial
  · cases h
    trivial
  · unfold finiteDouble? at h
    simp only [Option.bind_eq_bind] at h
    split at h
    all_goals
      obtain ⟨found, hread, hfound⟩ := Option.bind_eq_some_iff.mp h
      split_ifs at hfound
      cases hfound
      exact isDouble_of_unsignedDouble? hread

/-- A number that is read from a plain scalar is one that a value can have. -/
theorem isStored_of_value? {text : String} {value : JsonNumber}
    (h : value? text = some (.number value)) : IsStored value := by
  unfold value? at h
  split at h
  · cases h
  · split at h
    · cases h
    · split at h
      · split at h
        · next hfits =>
          cases h
          exact hfits
        · cases h
      · split at h
        · next hdouble =>
          cases h
          split at hdouble
          · cases hdouble
          · exact isDouble_of_double? hdouble
        · cases h

end Plain

/-! ### Readers -/

/-- Whatever a reader gives has a property. -/
def Gives {α : Type} (read : Read α) (holds : α → Prop) : Prop :=
  ∀ ⦃count value count'⦄, read.run count = .ok (value, count') → holds value

section

variable {α β : Type} {holds : α → Prop} {holds' : β → Prop}

/-- A reader that reads nothing. -/
theorem Gives.pure {value : α} (h : holds value) : Gives (pure value) holds := by
  intro count value' count' hrun
  cases hrun
  exact h

/-- A reader that fails gives nothing. -/
theorem Gives.throw (problem : Problem) : Gives (throw problem : Read α) holds := by
  intro count value count' hrun
  cases hrun

/-- Nothing is read behind a failure. -/
theorem Gives.throw_bind (problem : Problem) (next : α → Read β) :
    Gives ((MonadExcept.throw problem : Read α) >>= next) holds' := by
  intro count value count' hrun
  cases hrun

/-- What is computed without reading. -/
theorem Gives.lift {computation : Except Problem α}
    (h : ∀ value, computation = .ok value → holds value) : Gives (liftM computation) holds := by
  intro count value count' hrun
  change computation.map (·, count) = .ok (value, count') at hrun
  cases hresult : computation with
  | error problem =>
    rw [hresult] at hrun
    cases hrun
  | ok result =>
    rw [hresult] at hrun
    cases hrun
    exact h _ hresult

/-- One reader behind another. -/
theorem Gives.bind {first : Read α} {next : α → Read β} (h : Gives first holds)
    (h' : ∀ value, holds value → Gives (next value) holds') : Gives (first >>= next) holds' := by
  intro count value count' hrun
  rw [StateT.run_bind] at hrun
  obtain ⟨⟨middle, count''⟩, hfirst, hnext⟩ := bind_eq_ok_iff.mp hrun
  exact h' middle (h hfirst) hnext

/-- Items that are read one by one. -/
theorem Gives.mapM {read : α → Read β} (h : ∀ item, Gives (read item) holds') (items : List α) :
    Gives (items.mapM read) fun results => ∀ result ∈ results, holds' result := by
  induction items with
  | nil => exact Gives.pure (by simp)
  | cons item rest ih =>
    rw [List.mapM_cons]
    refine (h item).bind fun first hfirst => ih.bind fun others hothers => Gives.pure ?_
    exact List.forall_mem_cons.mpr ⟨hfirst, hothers⟩

end

/-- A value in whose mappings no two keys are the same, and which is no number that a value cannot
have. -/
structure IsSoundValue (value : Yaml) : Prop where
  everywhere : Everywhere IsSound value
  stored : ∀ number, value = .number number → Plain.IsStored number

/-- Simple values have no mappings. -/
theorem everywhere_of_isSimple {holds : List (Yaml × Yaml) → Prop} {value : Yaml}
    (h : IsSimple value) : Everywhere holds value := by
  cases value with
  | null | bool _ | number _ | string _ => trivial
  | sequence _ | mapping _ | tagged _ _ => cases h

/-- What a plain scalar stands for is simple. -/
theorem isSimple_of_value? {text : String} {value : Yaml} (h : Plain.value? text = some value) :
    IsSimple value := by
  unfold Plain.value? at h
  split at h
  · cases h
    trivial
  · split at h
    · cases h
      trivial
    · split at h
      · split_ifs at h
        cases h
        trivial
      · split at h
        all_goals
          cases h
          trivial

/-- A scalar without a tag is read as a sound value. -/
theorem isSoundValue_of_untaggedScalar {isPlain : Bool} {text : String} {value : Yaml}
    (h : untaggedScalar isPlain text = .ok value) : IsSoundValue value := by
  unfold untaggedScalar at h
  split at h
  · split at h
    · next hvalue =>
      cases h
      refine ⟨everywhere_of_isSimple (isSimple_of_value? hvalue), ?_⟩
      rintro number rfl
      exact Plain.isStored_of_value? hvalue
    · cases h
  · cases h
    exact ⟨trivial, by simp⟩

/-- A scalar with a tag of the language is read as a sound value. -/
theorem isSoundValue_of_taggedScalar {tag text : String} {value : Yaml}
    (h : taggedScalar tag text = .ok value) : IsSoundValue value := by
  unfold taggedScalar at h
  split_ifs at h
  · split at h
    · cases h
      exact ⟨trivial, by simp⟩
    · cases h
  · split at h
    · split_ifs at h with hfits
      cases h
      refine ⟨trivial, ?_⟩
      rintro number heq
      cases heq
      exact hfits
    · cases h
  · split at h
    · next hdouble =>
      cases h
      refine ⟨trivial, ?_⟩
      rintro number heq
      cases heq
      exact Plain.isDouble_of_double? hdouble
    · cases h
  · cases h
    exact ⟨trivial, by simp⟩
  · cases h
    exact ⟨trivial, by simp⟩

/-- The entries of a mapping that is sound everywhere. -/
def AreSoundEntries (entries : List (Yaml × Yaml)) : Prop :=
  IsSound entries ∧ EverywhereEntries IsSound entries

/-- An entry with a new key can be added. -/
theorem AreSoundEntries.append {entries : List (Yaml × Yaml)} (h : AreSoundEntries entries)
    {key value : Yaml} (hkey : IsSoundValue key) (hvalue : IsSoundValue value)
    (hnew : ∀ entry ∈ entries, same entry.1 key = false) :
    AreSoundEntries (entries ++ [(key, value)]) := by
  refine ⟨⟨?_, fun number hnumber => ?_⟩, everywhereEntries_append h.2 hvalue.everywhere⟩
  · refine List.pairwise_append.mpr ⟨h.1.apart, List.pairwise_singleton _ _, ?_⟩
    intro entry hentry other hother
    rw [List.mem_singleton.mp hother]
    exact hnew entry hentry
  · rw [List.map_append, List.mem_append] at hnumber
    rcases hnumber with hnumber | hnumber
    · exact h.1.stored number hnumber
    · exact hkey.stored number (List.mem_singleton.mp hnumber).symm

section

variable {value : Yaml}

/-- A tag does not change whether a value is sound. -/
theorem IsSoundValue.tagged (h : IsSoundValue value) (tag : String) :
    IsSoundValue (.tagged tag value) := ⟨h.everywhere, by simp⟩

/-- Sound items make a sound value. -/
theorem isSoundValue_sequence {items : List Yaml} (h : ∀ item ∈ items, IsSoundValue item) :
    IsSoundValue (.sequence items) :=
  ⟨everywhereItems_of_forall_mem fun item hitem => (h item hitem).everywhere, by simp⟩

/-- Sound entries make a sound value. -/
theorem isSoundValue_mapping {entries : List (Yaml × Yaml)} (h : AreSoundEntries entries) :
    IsSoundValue (.mapping entries) := ⟨h, by simp⟩

/-- There is nothing wrong with no entries. -/
theorem areSoundEntries_nil : AreSoundEntries [] := ⟨⟨List.Pairwise.nil, by simp⟩, trivial⟩

end

/-- Behind sound entries, sound entries are read. -/
theorem gives_readEntries {readKey readValue : Tree → Read Yaml}
    (hkey : ∀ node, Gives (readKey node) IsSoundValue)
    (hvalue : ∀ node, Gives (readValue node) IsSoundValue) (known : List (Yaml × Yaml))
    (hknown : AreSoundEntries known.reverse) (nodes : List (Tree × Tree)) :
    Gives (readEntries readKey readValue known nodes) AreSoundEntries := by
  induction nodes generalizing known with
  | nil => exact Gives.pure hknown
  | cons node rest ih =>
    rw [readEntries]
    refine (hkey node.1).bind fun key hkey => ?_
    split
    · exact Gives.throw_bind _ _
    · next hnew =>
      refine (hvalue node.2).bind fun value hvalue => ih _ ?_
      rw [List.reverse_cons]
      refine hknown.append hkey hvalue fun entry hentry => ?_
      rw [← Bool.not_eq_true]
      exact fun hsame => hnew (List.any_eq_true.mpr ⟨entry, List.mem_reverse.mp hentry, hsame⟩)

/-- A node is read as a sound value if what is in it is. -/
theorem gives_readNode {table : AliasTable} {inner : Option (Bool → Tree → Read Yaml)}
    (h : ∀ read ∈ inner, ∀ isTagged node, Gives (read isTagged node) IsSoundValue)
    (isTagged : Bool) (node : Tree) :
    Gives (readNode table inner isTagged node) IsSoundValue := by
  unfold readNode
  extract_lets within next
  have hinner : Gives (liftM within) fun read => ∀ isTagged node,
      Gives (read isTagged node) IsSoundValue := by
    refine Gives.lift fun read hread => ?_
    simp only [within] at hread
    split at hread
    · cases hread
      exact h _ rfl
    · cases hread
  have hnext : ∀ pair, Gives (next pair) IsSoundValue := by
    rintro ⟨isTagged, node⟩
    simp -zeta only [next]
    extract_lets ownTag wrap
    have hwrap (properties : Properties) {value : Yaml} (hvalue : IsSoundValue value) :
        IsSoundValue (wrap properties value) := by
      simp only [wrap]
      split
      · exact hvalue.tagged _
      · exact hvalue
    match node with
    | .alias anchor => exact Gives.throw _
    | .scalar properties isPlain text =>
      dsimp only
      split
      · split
        · exact (Gives.lift fun _ => isSoundValue_of_untaggedScalar).bind fun _ hvalue =>
            Gives.pure (hwrap properties hvalue)
        · exact Gives.lift fun _ => isSoundValue_of_taggedScalar
      · exact Gives.lift fun _ => isSoundValue_of_untaggedScalar
    | .sequence properties items =>
      refine hinner.bind fun read hread => ?_
      refine (Gives.mapM (hread false) items).bind fun results hresults => ?_
      exact Gives.pure (hwrap properties (isSoundValue_sequence hresults))
    | .mapping properties entries =>
      refine hinner.bind fun read hread => ?_
      have hentries (isTagged : Bool) :
          Gives (readEntries (read isTagged) (read false) [] entries) AreSoundEntries :=
        gives_readEntries (hread isTagged) (hread false) [] areSoundEntries_nil entries
      refine (hentries _).bind fun results hresults => ?_
      exact Gives.pure (hwrap properties (isSoundValue_mapping hresults))
  split
  · refine @Gives.bind _ _ (fun _ => True) _ _ _ (fun _ _ _ _ => trivial) fun node _ => ?_
    rw [pure_bind]
    exact hnext (false, node)
  · rw [pure_bind]
    exact hnext (isTagged, _)

/-- Trees are read as sound values, whatever their depth. -/
theorem gives_readTree (table : AliasTable) (depth : Nat) (isTagged : Bool) (node : Tree) :
    Gives (readTree table depth isTagged node) IsSoundValue := by
  induction depth generalizing isTagged node with
  | zero => exact gives_readNode (by simp) isTagged node
  | succ depth ih =>
    refine gives_readNode ?_ isTagged node
    rintro read hread isTagged node
    cases hread
    exact ih isTagged node

/-- What is read from a text is sound. -/
theorem isSound_of_parse {text : String} {value : Yaml} (h : parse text = .ok value) :
    Everywhere IsSound value := by
  unfold parse at h
  obtain ⟨tokens, -, h⟩ := bind_eq_ok_iff.mp h
  obtain ⟨tree, -, h⟩ := bind_eq_ok_iff.mp h
  split at h
  · next tree =>
    obtain ⟨⟨result, count⟩, hresult, h⟩ := bind_eq_ok_iff.mp h
    cases h
    exact (gives_readTree _ _ _ _ hresult).everywhere
  · cases h
    trivial

end Conventions.Yaml
