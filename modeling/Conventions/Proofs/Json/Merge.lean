import Conventions.Json.Merge
import Conventions.Proofs.Insertion

/-!
# One value in a merge

A table may be laid over another one entry by entry. So a value that is set at the end of a path
in the later table is set there in the merge, and the merge does not change otherwise.
-/

namespace Conventions.Json

/-- A value laid over the one that was found under its key before, if there was one. -/
def mergeWith (earlier : Option Json) (later : Json) : Json :=
  match earlier with
  | some known => mergeValue known later
  | none => later

/-- The fields are laid over earlier ones from the first to the last. -/
theorem mergeFields_cons (earlier : Entries Json) (key : String) (value : Json)
    (rest : Entries Json) : mergeFields earlier ((key, value) :: rest) =
      mergeFields (Entries.insert key (mergeWith (Entries.find? key earlier) value) earlier) rest := by
  rw [mergeFields]
  rfl

/-- Two objects are merged field by field. -/
theorem mergeValue_object (earlier later : Entries Json) :
    mergeValue (.object earlier) (.object later) = .object (mergeFields earlier later) := by
  rw [mergeValue]

/-- A merge keeps the keys apart. -/
theorem nodup_keys_mergeFields {earlier : Entries Json} (h : earlier.keys.Nodup)
    (later : Entries Json) : (mergeFields earlier later).keys.Nodup := by
  induction later generalizing earlier with
  | nil =>
    rw [mergeFields]
    exact h
  | cons entry rest ih =>
    rw [mergeFields_cons]
    exact ih (Entries.nodup_keys_insert h _ _)

/-- Fields of other keys do not touch a known key, so its value can as well be set behind them. -/
theorem mergeFields_insert_of_notMem {key : String} {earlier later : Entries Json}
    (hknown : key ∈ earlier.keys) (hother : key ∉ later.keys) (value : Json) :
    mergeFields (Entries.insert key value earlier) later =
      Entries.insert key value (mergeFields earlier later) := by
  induction later generalizing earlier with
  | nil => simp only [mergeFields]
  | cons entry rest ih =>
    obtain ⟨k, v⟩ := entry
    rw [Entries.keys, List.map_cons, List.mem_cons, not_or] at hother
    rw [mergeFields_cons, mergeFields_cons, Entries.find?_insert, if_neg hother.1,
      ← Entries.insert_comm hother.1 hknown]
    exact ih (Entries.mem_keys_insert.mpr (Or.inr hknown)) hother.2

/-- To lay one more field over earlier ones is to insert it, laid over what was there, into the
merge. -/
theorem mergeFields_insert {later : Entries Json} (h : later.keys.Nodup) (key : String)
    (value : Json) (earlier : Entries Json) :
    mergeFields earlier (Entries.insert key value later) =
      Entries.insert key (mergeWith (Entries.find? key earlier) value)
        (mergeFields earlier later) := by
  induction later generalizing earlier with
  | nil => rw [Entries.insert, mergeFields_cons, mergeFields, mergeFields]
  | cons entry rest ih =>
    obtain ⟨k, v⟩ := entry
    obtain ⟨hfirst, hrest⟩ := List.nodup_cons.mp h
    rw [Entries.insert_cons]
    by_cases heq : k = key
    · subst heq
      -- The field is laid over the earlier ones first, and no later field has its key.
      rw [if_pos rfl, mergeFields_cons, mergeFields_cons,
        ← mergeFields_insert_of_notMem (Entries.mem_keys_insert.mpr (Or.inl rfl)) hfirst,
        Entries.insert_insert_self]
    · rw [if_neg heq, mergeFields_cons, mergeFields_cons, ih hrest, Entries.find?_insert,
        if_neg heq]

/-- What is found in a merge. -/
theorem find?_mergeFields {later : Entries Json} (h : later.keys.Nodup) (key : String)
    (earlier : Entries Json) : Entries.find? key (mergeFields earlier later) =
      match Entries.find? key later with
      | some value => some (mergeWith (Entries.find? key earlier) value)
      | none => Entries.find? key earlier := by
  induction later generalizing earlier with
  | nil => rw [mergeFields]; rfl
  | cons entry rest ih =>
    obtain ⟨k, v⟩ := entry
    obtain ⟨hfirst, hrest⟩ := List.nodup_cons.mp h
    rw [mergeFields_cons, ih hrest, Entries.find?_insert]
    by_cases heq : k = key
    · subst heq
      rw [Entries.find?_eq_none_iff.mpr hfirst]
      simp [Entries.find?]
    · simp [Entries.find?, heq]

/-! ### Paths -/

/-- A value in which another one is set at the end of a path. Where the path leads to no object, a
new one is begun. -/
def withPath (value : Json) : List String → Json → Json
  | [], _ => value
  | key :: path, document =>
    let fields := document.asObject?.getD []
    .object (Entries.insert key (withPath value path ((Entries.find? key fields).getD .null)) fields)

/-- As far as a path goes in a value, there are objects in which no key occurs twice. -/
def LeadsAlong : List String → Json → Prop
  | [], _ => True
  | key :: path, document => ∃ fields, document = .object fields ∧ (Entries.keys fields).Nodup ∧
      ∀ below, Entries.find? key fields = some below → LeadsAlong path below

/-- Only an object leads to an object when it is laid over something. -/
theorem exists_of_mergeWith_eq_object {earlier : Option Json} {later : Json}
    {fields : Entries Json} (h : mergeWith earlier later = .object fields) :
    ∃ own, later = .object own := by
  cases earlier with
  | none => exact ⟨fields, h⟩
  | some known =>
    cases later with
    | object own => exact ⟨own, rfl⟩
    | array items => cases known <;> simp [mergeWith, mergeValue] at h
    | _ => simp [mergeWith, mergeValue] at h

section

variable {value : Json} (hvalue : ∀ earlier, mergeValue earlier value = value)
include hvalue

/-- To lay nothing but the end of a path over a value is to set it there. -/
theorem mergeValue_withPath_null {path : List String} {document : Json}
    (h : LeadsAlong path document) :
    mergeValue document (withPath value path .null) = withPath value path document := by
  induction path generalizing document with
  | nil => exact hvalue document
  | cons key path ih =>
    obtain ⟨fields, rfl, -, hbelow⟩ := h
    have hinner : mergeWith (Entries.find? key fields) (withPath value path .null) =
        withPath value path ((Entries.find? key fields).getD .null) := by
      cases hfound : Entries.find? key fields with
      | none => rfl
      | some below => exact ih (hbelow below hfound)
    change mergeValue (.object fields) (.object [(key, withPath value path .null)]) =
      .object (Entries.insert key (withPath value path ((Entries.find? key fields).getD .null))
        fields)
    rw [mergeValue_object, mergeFields_cons, mergeFields, hinner]

/-- What is set at the end of a path in the later value is set there in the merge. -/
theorem mergeValue_withPath {path : List String} {earlier later : Json}
    (hearlier : LeadsAlong path earlier) (hlater : LeadsAlong path later) :
    mergeValue earlier (withPath value path later) =
      withPath value path (mergeValue earlier later) := by
  induction path generalizing earlier later with
  | nil => exact hvalue earlier
  | cons key path ih =>
    obtain ⟨fields, rfl, -, hbelow⟩ := hearlier
    obtain ⟨own, rfl, hown, hinside⟩ := hlater
    -- The path may end on either side: then it goes on in what the other one has under the key.
    have hinner : mergeWith (Entries.find? key fields)
        (withPath value path ((Entries.find? key own).getD .null)) =
          withPath value path ((Entries.find? key (mergeFields fields own)).getD .null) := by
      rw [find?_mergeFields hown]
      cases hfound : Entries.find? key own with
      | none =>
        cases hknown : Entries.find? key fields with
        | none => rfl
        | some below => exact mergeValue_withPath_null hvalue (hbelow below hknown)
      | some inside =>
        cases hknown : Entries.find? key fields with
        | none => rfl
        | some below => exact ih (hbelow below hknown) (hinside inside hfound)
    simp only [withPath, asObject?, Option.getD_some, mergeValue_object, mergeFields_insert hown,
      hinner]

end

/-- A path goes on in a merge as it does in the values that are merged. -/
theorem LeadsAlong.mergeValue {path : List String} {earlier later : Json}
    (hearlier : LeadsAlong path earlier) (hlater : LeadsAlong path later) :
    LeadsAlong path (mergeValue earlier later) := by
  induction path generalizing earlier later with
  | nil => trivial
  | cons key path ih =>
    obtain ⟨fields, rfl, hfields, hbelow⟩ := hearlier
    obtain ⟨own, rfl, hown, hinside⟩ := hlater
    refine ⟨mergeFields fields own, by rw [Json.mergeValue], nodup_keys_mergeFields hfields own,
      fun below hfound => ?_⟩
    rw [find?_mergeFields hown] at hfound
    cases hlast : Entries.find? key own with
    | none =>
      rw [hlast] at hfound
      exact hbelow below hfound
    | some inside =>
      rw [hlast] at hfound
      obtain rfl := Option.some.inj hfound
      cases hknown : Entries.find? key fields with
      | none => exact hinside inside hlast
      | some known => exact ih (hbelow known hknown) (hinside inside hlast)

end Conventions.Json
