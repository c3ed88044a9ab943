import Conventions.Proofs.FirstMentions
import Conventions.Proofs.Json.Merge
import Conventions.Proofs.Json.Tables

/-!
# Merging key by key

A merge goes from value to value, and inside of each from key to key. Its result can be told the
other way round: its keys are those of all tables, each where it is first mentioned, and under a
key stands what the values make that the tables have there. What values make is told from the
last one: it is put together with those before it as far back as they have its form, and an object
is put together in the same way again.
-/

namespace Conventions.Json

/-- The values that tables have under a key, from the first table to the last. -/
def valuesAt (key : String) (tables : List (Entries Json)) : List Json :=
  tables.filterMap (Entries.find? key)

/-- The keys of tables, each where it is first mentioned. -/
def keysOf (tables : List (Entries Json)) : List String :=
  (tables.flatMap Entries.keys).eraseDups

/-- What values make, if there are any, when each is laid over what those before it make. -/
def combine (values : List Json) : Option Json :=
  values.foldl (fun earlier later => some (mergeWith earlier later)) none

/-- The fields that tables make: under each key of theirs what their values there make. -/
structure IsPointwise (tables : List (Entries Json)) (fields : Entries Json) : Prop where
  keys : fields.keys = keysOf tables
  find? : ∀ key, Entries.find? key fields = combine (valuesAt key tables)

/-- A value is what values make that were found one after the other. -/
inductive Combined : List Json → Json → Prop
  /-- A last value that is neither an array nor an object stands as it is. -/
  | stands (before : List Json) {last : Json} (hitems : last.asArray? = none)
      (hfields : last.asObject? = none) : Combined (before ++ [last]) last
  /-- The arrays at the end are put one behind the other, from the last value on that is none. -/
  | arrays (before : List Json) {lists : List (List Json)} (hlists : lists ≠ [])
      (hbefore : ∀ value ∈ before.getLast?, value.asArray? = none) :
      Combined (before ++ lists.map .array) (.array lists.flatten)
  /-- The objects at the end make an object that has all their keys, from the last value on that is
  none. Under each key stands what the values make that they have there. -/
  | objects (before : List Json) {tables : List (Entries Json)} {fields : Entries Json}
      (htables : tables ≠ []) (hbefore : ∀ value ∈ before.getLast?, value.asObject? = none)
      (hkeys : fields.keys = keysOf tables)
      (hfields : ∀ {key value}, Entries.find? key fields = some value →
        Combined (valuesAt key tables) value) :
      Combined (before ++ tables.map .object) (.object fields)

/-! ### Keys of a merge -/

/-- The keys of a merge are those of both tables. -/
theorem keys_mergeFields {earlier : Entries Json} (h : earlier.keys.Nodup)
    (later : Entries Json) :
    (mergeFields earlier later).keys = (earlier.keys ++ later.keys).eraseDups := by
  induction later generalizing earlier with
  | nil =>
    rw [mergeFields]
    simpa [Entries.keys] using (eraseDups_of_nodup h).symm
  | cons entry rest ih =>
    obtain ⟨key, value⟩ := entry
    have hkeys : ∀ merged, (Entries.insert key merged earlier).keys =
        (earlier.keys ++ [key]).eraseDups := fun merged => by
      rw [Entries.keys_insert, eraseDups_append_singleton, eraseDups_of_nodup h]
    rw [mergeFields_cons, ih (Entries.nodup_keys_insert h _ _), hkeys, eraseDups_eraseDups_append,
      List.append_assoc]
    rfl

/-- One more table adds its keys. -/
theorem keysOf_append (tables : List (Entries Json)) (table : Entries Json) :
    keysOf (tables ++ [table]) = (keysOf tables ++ table.keys).eraseDups := by
  simp only [keysOf, List.flatMap_append, List.flatMap_singleton, eraseDups_eraseDups_append]

/-- A key is mentioned if a table has a value there. -/
theorem valuesAt_eq_nil_iff {key : String} {tables : List (Entries Json)} :
    valuesAt key tables = [] ↔ key ∉ keysOf tables := by
  simp [valuesAt, keysOf, List.filterMap_eq_nil_iff, Entries.find?_eq_none_iff]

/-- One more table adds the value that it has under a key, if it has one. -/
theorem valuesAt_append (key : String) (tables : List (Entries Json)) (table : Entries Json) :
    valuesAt key (tables ++ [table]) =
      valuesAt key tables ++ (Entries.find? key table).toList := by
  cases h : Entries.find? key table <;> simp [valuesAt, List.filterMap_append, h]

/-- One more value is laid over what the values before it make. -/
theorem combine_append (values : List Json) (later : Json) :
    combine (values ++ [later]) = some (mergeWith (combine values) later) := by
  simp [combine]

/-- Nothing is combined if there are no values. -/
theorem combine_eq_none_iff {values : List Json} : combine values = none ↔ values = [] := by
  induction values using List.reverseRecOn with
  | nil => simp [combine]
  | append_singleton values later _ => simp [combine_append]

/-! ### Table by table -/

/-- No table makes no fields. -/
theorem isPointwise_nil : IsPointwise [] [] := ⟨rfl, fun _ => rfl⟩

/-- One more table is laid over the fields that those before it make. -/
theorem IsPointwise.mergeFields {tables : List (Entries Json)} {fields own : Entries Json}
    (h : IsPointwise tables fields) (hown : own.keys.Nodup) :
    IsPointwise (tables ++ [own]) (Json.mergeFields fields own) where
  keys := by
    have hfields : fields.keys.Nodup := h.keys ▸ nodup_eraseDups _
    rw [keys_mergeFields hfields, h.keys, keysOf_append]
  find? key := by
    rw [find?_mergeFields hown, valuesAt_append]
    cases Entries.find? key own with
    | none => simpa using h.find? key
    | some value => rw [Option.toList_some, combine_append, h.find? key]

/-- Fields that are laid over none stand as they are. -/
theorem mergeFields_nil {own : Entries Json} (hown : own.keys.Nodup) :
    Json.mergeFields [] own = own := by
  refine Entries.ext_of_keys (nodup_keys_mergeFields areRead_nil.nodup own) ?_ fun key => ?_
  · rw [keys_mergeFields areRead_nil.nodup]
    exact eraseDups_of_nodup hown
  · rw [find?_mergeFields hown]
    cases Entries.find? key own <;> rfl

/-- The merge of objects is an object that is made key by key. -/
theorem exists_mergeAll_objects {tables : List (Entries Json)}
    (h : ∀ table ∈ tables, table.keys.Nodup) :
    ∃ fields, mergeAll (tables.map .object) = .object fields ∧ IsPointwise tables fields := by
  induction tables using List.reverseRecOn with
  | nil => exact ⟨[], rfl, isPointwise_nil⟩
  | append_singleton tables own ih =>
    obtain ⟨fields, hmerge, hfields⟩ := ih fun table htable => h table (by simp [htable])
    refine ⟨_, ?_, hfields.mergeFields (h own (by simp))⟩
    rw [mergeAll] at hmerge ⊢
    rw [List.map_append, List.foldl_append, hmerge]
    rfl

/-! ### What values make -/

/-- Only arrays and objects are put together with what was there before. -/
theorem mergeValue_eq_right {earlier later : Json}
    (hitems : earlier.asArray? = none ∨ later.asArray? = none)
    (hfields : earlier.asObject? = none ∨ later.asObject? = none) :
    mergeValue earlier later = later := by
  cases later with
  | array items =>
    cases earlier <;> simp_all [asArray?, mergeValue]
  | object fields =>
    cases earlier <;> simp_all [asObject?, mergeValue]
  | _ => simp [mergeValue]

/-- A value that has another form than the one before it stands as it is. -/
theorem combined_begin {before : List Json} {value : Json} (hread : IsRead value)
    (hitems : ∀ last ∈ before.getLast?, last.asArray? = none ∨ value.asArray? = none)
    (hfields : ∀ last ∈ before.getLast?, last.asObject? = none ∨ value.asObject? = none) :
    Combined (before ++ [value]) value := by
  match value with
  | .null => exact Combined.stands before rfl rfl
  | .bool _ => exact Combined.stands before rfl rfl
  | .number _ => exact Combined.stands before rfl rfl
  | .string _ => exact Combined.stands before rfl rfl
  | .array items =>
    simpa using Combined.arrays before (List.cons_ne_nil items [])
      fun last hlast => (hitems last hlast).resolve_right (by simp [asArray?])
  | .object fields =>
    refine Combined.objects before (List.cons_ne_nil fields [])
      (fun last hlast => (hfields last hlast).resolve_right (by simp [asObject?])) ?_
      fun {key below} hbelow => ?_
    · simp [keysOf, eraseDups_of_nodup hread.areRead.nodup]
    · have hsmaller := List.sizeOf_lt_of_mem (Entries.mem_of_find? hbelow)
      have hunder : valuesAt key [fields] = [] ++ [below] := by simp [valuesAt, hbelow]
      rw [hunder]
      exact combined_begin (hread.areRead.isRead hbelow) (by simp) (by simp)
termination_by sizeOf value
decreasing_by
  simp only [Prod.mk.sizeOf_spec] at hsmaller
  simp only [object.sizeOf_spec]
  omega

/-- A run of values of one form ends in one of them. -/
theorem exists_of_mem_getLast? {α : Type} {form : α → Json} {before : List Json} {parts : List α}
    (hparts : parts ≠ []) {last : Json} (h : last ∈ (before ++ parts.map form).getLast?) :
    ∃ part, last = form part := by
  rw [List.getLast?_append_of_ne_nil _ (by simpa using hparts), List.getLast?_map,
    Option.mem_def, Option.map_eq_some_iff] at h
  obtain ⟨part, -, hpart⟩ := h
  exact ⟨part, hpart.symm⟩

/-- A later value is laid over what the values before it make: the run of values of its form at the
end goes on, or a new one begins. -/
theorem Combined.append {values : List Json} {earlier later : Json} (h : Combined values earlier)
    (hread : IsRead later) : Combined (values ++ [later]) (mergeValue earlier later) := by
  induction h generalizing later with
  | stands before hitems hfields =>
    rw [mergeValue_eq_right (Or.inl hitems) (Or.inl hfields)]
    exact combined_begin hread (by simp [hitems]) (by simp [hfields])
  | @arrays before lists hlists hbefore =>
    cases later with
    | array items =>
      rw [mergeValue]
      simpa using Combined.arrays before (List.concat_ne_nil items lists) hbefore
    | _ =>
      rw [mergeValue_eq_right (Or.inr rfl) (Or.inl rfl)]
      refine combined_begin hread (fun _ _ => Or.inr rfl) fun last hlast => ?_
      obtain ⟨items, rfl⟩ := exists_of_mem_getLast? hlists hlast
      exact Or.inl rfl
  | @objects before tables fields htables hbefore hkeys hfields ih =>
    cases later with
    | object own =>
      have hknown : fields.keys.Nodup := hkeys ▸ nodup_eraseDups _
      rw [mergeValue_object]
      suffices h : Combined (before ++ (tables ++ [own]).map .object)
          (.object (mergeFields fields own)) by simpa using h
      refine Combined.objects before (List.concat_ne_nil own tables) hbefore ?_
        fun {key value} hvalue => ?_
      · rw [keys_mergeFields hknown, hkeys, ← keysOf_append]
      · rw [find?_mergeFields hread.areRead.nodup] at hvalue
        rw [valuesAt_append]
        cases hown : Entries.find? key own with
        | none =>
          rw [hown] at hvalue
          simpa using hfields hvalue
        | some below =>
          rw [hown] at hvalue
          obtain rfl := Option.some.inj hvalue
          cases hearlier : Entries.find? key fields with
          | none =>
            have hnone : valuesAt key tables = [] :=
              valuesAt_eq_nil_iff.mpr (hkeys ▸ Entries.find?_eq_none_iff.mp hearlier)
            rw [hnone]
            exact combined_begin (hread.areRead.isRead hown) (by simp) (by simp)
          | some known => exact ih hearlier (hread.areRead.isRead hown)
    | _ =>
      rw [mergeValue_eq_right (Or.inl rfl) (Or.inr rfl)]
      refine combined_begin hread (fun last hlast => ?_) fun _ _ => Or.inr rfl
      obtain ⟨own, rfl⟩ := exists_of_mem_getLast? htables hlast
      exact Or.inl rfl

/-- From value to value, what is combined is what the values make. -/
theorem combined_of_combine {values : List Json} (hread : ∀ value ∈ values, IsRead value)
    {value : Json} (h : combine values = some value) : Combined values value := by
  induction values using List.reverseRecOn generalizing value with
  | nil => cases h
  | append_singleton values later ih =>
    have hlater : IsRead later := hread later (by simp)
    rw [combine_append] at h
    obtain rfl := Option.some.inj h
    cases hvalues : combine values with
    | none =>
      rw [combine_eq_none_iff.mp hvalues]
      exact combined_begin hlater (by simp) (by simp)
    | some earlier => exact (ih (fun v hv => hread v (by simp [hv])) hvalues).append hlater

/-! ### Nothing else is made of them -/

/-- What is laid over something has the form of the later value. -/
theorem form_mergeWith (earlier : Option Json) (later : Json) :
    ((mergeWith earlier later).asArray? = none ↔ later.asArray? = none) ∧
      ((mergeWith earlier later).asObject? = none ↔ later.asObject? = none) := by
  cases earlier with
  | none => exact ⟨Iff.rfl, Iff.rfl⟩
  | some known =>
    cases later with
    | array items => cases known <;> simp [mergeWith, mergeValue, asArray?, asObject?]
    | object fields => cases known <;> simp [mergeWith, mergeValue, asArray?, asObject?]
    | _ => simp [mergeWith, mergeValue]

/-- A value that has another form than the one before it takes its place. -/
theorem combine_begin {before : List Json} (value : Json)
    (hitems : ∀ last ∈ before.getLast?, last.asArray? = none ∨ value.asArray? = none)
    (hfields : ∀ last ∈ before.getLast?, last.asObject? = none ∨ value.asObject? = none) :
    combine (before ++ [value]) = some value := by
  rcases List.eq_nil_or_concat' before with rfl | ⟨rest, last, rfl⟩
  · rfl
  · have hform := form_mergeWith (combine rest) last
    have hitems' := hitems last (by simp)
    have hfields' := hfields last (by simp)
    rw [combine_append, combine_append, mergeWith,
      mergeValue_eq_right (hitems'.imp_left hform.1.mpr) (hfields'.imp_left hform.2.mpr)]

/-- Behind values that end in no array, a run of arrays is put together. -/
theorem combine_arrays {before : List Json} {lists : List (List Json)} (hlists : lists ≠ [])
    (hbefore : ∀ value ∈ before.getLast?, value.asArray? = none) :
    combine (before ++ lists.map .array) = some (.array lists.flatten) := by
  induction lists using List.reverseRecOn with
  | nil => exact absurd rfl hlists
  | append_singleton lists items ih =>
    by_cases hfirst : lists = []
    · subst hfirst
      simpa using combine_begin (.array items)
        (fun last hlast => Or.inl (hbefore last hlast)) fun _ _ => Or.inr rfl
    · rw [List.map_append, ← List.append_assoc, List.map_singleton, combine_append, ih hfirst,
        mergeWith, mergeValue]
      simp

/-- Behind values that end in no object, a run of objects is made key by key. -/
theorem exists_combine_objects {before : List Json} {tables : List (Entries Json)}
    (htables : tables ≠ []) (hbefore : ∀ value ∈ before.getLast?, value.asObject? = none)
    (hnodup : ∀ table ∈ tables, table.keys.Nodup) :
    ∃ fields, combine (before ++ tables.map .object) = some (.object fields) ∧
      IsPointwise tables fields := by
  induction tables using List.reverseRecOn with
  | nil => exact absurd rfl htables
  | append_singleton tables own ih =>
    have hown : own.keys.Nodup := hnodup own (by simp)
    by_cases hfirst : tables = []
    · subst hfirst
      refine ⟨own, ?_, ?_⟩
      · simpa using combine_begin (.object own) (fun _ _ => Or.inr rfl)
          fun last hlast => Or.inl (hbefore last hlast)
      · have hfields := isPointwise_nil.mergeFields hown
        rwa [mergeFields_nil hown] at hfields
    · obtain ⟨fields, hcombine, hfields⟩ := ih hfirst fun table htable =>
        hnodup table (by simp [htable])
      refine ⟨_, ?_, hfields.mergeFields hown⟩
      rw [List.map_append, ← List.append_assoc, List.map_singleton, combine_append, hcombine,
        mergeWith, mergeValue_object]

/-- What tables have under a key was read if they were. -/
theorem isRead_of_mem_valuesAt {tables : List (Entries Json)} (h : ∀ table ∈ tables, AreRead table)
    (key : String) : ∀ value ∈ valuesAt key tables, IsRead value := by
  intro value hvalue
  obtain ⟨table, htable, hfound⟩ := List.mem_filterMap.mp hvalue
  exact (h table htable).isRead hfound

/-- What values make is told by them. -/
theorem Combined.combine_eq {values : List Json} {value : Json} (h : Combined values value)
    (hread : ∀ v ∈ values, IsRead v) : combine values = some value := by
  induction h with
  | stands before hitems hfields =>
    exact combine_begin _ (fun _ _ => Or.inr hitems) fun _ _ => Or.inr hfields
  | arrays before hlists hbefore => exact combine_arrays hlists hbefore
  | @objects before tables fields htables hbefore hkeys hfields ih =>
    have htables' : ∀ table ∈ tables, AreRead table := fun table htable =>
      (hread (.object table) (by simp [htable])).areRead
    obtain ⟨made, hcombine, hmade⟩ := exists_combine_objects htables hbefore
      fun table htable => (htables' table htable).nodup
    have hpointwise : IsPointwise tables fields := ⟨hkeys, fun key => ?_⟩
    · have hnodup : (Entries.keys made).Nodup := hmade.keys ▸ nodup_eraseDups _
      rw [hcombine, Entries.ext_of_keys hnodup (hmade.keys.trans hkeys.symm) fun key =>
        (hmade.find? key).trans (hpointwise.find? key).symm]
    · cases hfound : Entries.find? key fields with
      | none =>
        rw [Entries.find?_eq_none_iff, hkeys, ← valuesAt_eq_nil_iff] at hfound
        rw [hfound]
        rfl
      | some value => exact (ih hfound (isRead_of_mem_valuesAt htables' key)).symm

/-- Where one of the values is no object, the later one takes the place of the earlier one. -/
theorem mergeStep_eq_right {earlier later : Json}
    (h : earlier.asObject? = none ∨ later.asObject? = none) : mergeStep earlier later = later := by
  cases earlier <;> cases later <;> first | rfl | simp [asObject?] at h

/-- The merge of values does not depend on those before the last one that is no object, and goes key
by key over the objects behind it: each key stands where it is first mentioned, with what the values
make that the objects have under it. -/
theorem mergeAll_pointwise (values : List Json) (hread : ∀ value ∈ values, IsRead value) :
    (∀ (before : List Json) (last : Json) (tables : List (Entries Json)),
      values = before ++ last :: tables.map .object → last.asObject? = none →
        mergeAll values = if tables.isEmpty then last else mergeAll (tables.map .object)) ∧
    ∀ tables : List (Entries Json), values = tables.map .object →
      ∃ fields, mergeAll values = .object fields ∧ Entries.keys fields = keysOf tables ∧
        ∀ key, Entries.find? key fields = combine (valuesAt key tables) ∧
          ∀ value, Entries.find? key fields = some value ↔
            Combined (valuesAt key tables) value := by
  constructor
  · rintro before last tables rfl hlast
    rw [mergeAll, List.foldl_append, List.foldl_cons, mergeStep_eq_right (Or.inr hlast)]
    cases tables with
    | nil => rfl
    | cons first rest =>
      have hfirst : first.keys.Nodup := (hread (.object first) (by simp)).areRead.nodup
      have hbegin : mergeStep (.object []) (.object first) = .object first := by
        rw [mergeStep, mergeFields_nil hfirst]
      rw [List.map_cons, List.foldl_cons, mergeStep_eq_right (Or.inl hlast), mergeAll,
        List.foldl_cons, hbegin]
      rfl
  · rintro tables rfl
    have htables : ∀ table ∈ tables, AreRead table := fun table htable =>
      (hread (.object table) (by simp [htable])).areRead
    obtain ⟨fields, hmerge, hfields⟩ := exists_mergeAll_objects
      fun table htable => (htables table htable).nodup
    refine ⟨fields, hmerge, hfields.keys, fun key => ⟨hfields.find? key, fun value => ?_⟩⟩
    have hvalues := isRead_of_mem_valuesAt htables key
    rw [hfields.find? key]
    exact ⟨combined_of_combine hvalues, fun h => h.combine_eq hvalues⟩

/-- A table with a table in it. -/
def earlierLayer : Entries Json :=
  [("aa", .number (.whole 1)), ("bb", .object [("cc", .bool true), ("hh", .array [.null])])]

/-- A table that may be laid over it. -/
def laterLayer : Entries Json :=
  [("dd", .null), ("bb", .object [("hh", .array [.string "x", .null]), ("cc", .bool false)])]

/-- Two tables behind a value that is none. -/
theorem mergeAll_pointwise_layers :
    mergeAll [.string "x", .object earlierLayer, .object laterLayer] =
      mergeAll [.object earlierLayer, .object laterLayer] ∧
    ∃ fields, mergeAll [.object earlierLayer, .object laterLayer] = .object fields ∧
      Entries.keys fields = ["aa", "bb", "dd"] ∧ Combined (valuesAt "bb" [earlierLayer, laterLayer])
        (.object [("cc", .bool false), ("hh", .array [.null, .string "x", .null])]) := by
  have hlayers : ∀ value ∈ [.object earlierLayer, .object laterLayer], IsRead value := by
    simp only [List.forall_mem_cons, List.not_mem_nil, false_implies, implies_true, and_true]
    exact ⟨rfl, rfl⟩
  have hbehind := (mergeAll_pointwise (.string "x" :: [.object earlierLayer, .object laterLayer])
    (List.forall_mem_cons.mpr ⟨rfl, hlayers⟩)).1 [] (.string "x") [earlierLayer, laterLayer] rfl rfl
  obtain ⟨fields, hmerge, hkeys, hfields⟩ :=
    (mergeAll_pointwise _ hlayers).2 [earlierLayer, laterLayer] rfl
  obtain ⟨hfind, hcombined⟩ := hfields "bb"
  exact ⟨hbehind, fields, hmerge, hkeys, (hcombined _).mp hfind⟩

end Conventions.Json
