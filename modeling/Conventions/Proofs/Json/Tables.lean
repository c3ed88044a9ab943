import Conventions.Json.Record
import Conventions.Proofs.Except
import Conventions.Proofs.Insertion

/-!
# Tables that were read

Whatever is read into a value or a table comes with different keys in each object, since a later
value under a key takes the place of an earlier one. So it reads back as itself.
-/

namespace Conventions

/-- What is found among the entries of pairs is one of the pairs. -/
theorem Entries.mem_of_find?_ofPairs {α : Type} {pairs : List (String × α)} {key : String}
    {value : α} (h : Entries.find? key (ofPairs pairs) = some value) : (key, value) ∈ pairs := by
  have hrun : ∀ entries : Entries α, Entries.find? key
      (pairs.foldl (fun entries pair => insert pair.1 pair.2 entries) entries) = some value →
        (key, value) ∈ pairs ∨ Entries.find? key entries = some value := by
    clear h
    induction pairs with
    | nil => exact fun entries h => Or.inr h
    | cons pair rest ih =>
      intro entries h
      rcases ih _ h with hrest | hfound
      · exact Or.inl (List.mem_cons_of_mem _ hrest)
      · rw [find?_insert] at hfound
        split at hfound
        · next hkey =>
          obtain rfl := Option.some.inj hfound
          exact Or.inl (List.mem_cons.mpr (Or.inl (by rw [← hkey])))
        · exact Or.inr hfound
  exact (hrun [] h).resolve_right (by simp [find?])

namespace Json

/-- A value is one that can be read: it reads back as itself. -/
def IsRead (value : Json) : Prop := (Node.ofJson value).value none = .ok value

/-- A value reads back as itself within a limit. Without one, this is `IsRead`. -/
def ReadsWithin (depth : Depth) (value : Json) : Prop :=
  (Node.ofJson value).value depth = .ok value

/-- The fields of a table were read: no key occurs twice, and each value was read. -/
structure AreRead (fields : Entries Json) : Prop where
  nodup : fields.keys.Nodup
  isRead : ∀ {key value}, Entries.find? key fields = some value → IsRead value

/-- The entries of pairs of which the values were read. -/
theorem areRead_ofPairs {pairs : List (String × Json)} (h : ∀ pair ∈ pairs, IsRead pair.2) :
    AreRead (Entries.ofPairs pairs) :=
  ⟨Entries.nodup_keys_ofPairs pairs, fun hfound => h _ (Entries.mem_of_find?_ofPairs hfound)⟩

/-- There are no fields in an empty table. -/
theorem areRead_nil : AreRead [] := ⟨List.nodup_nil, fun h => nomatch h⟩

/-- One more field that was read. -/
theorem AreRead.insert {fields : Entries Json} (h : AreRead fields) (key : String) {value : Json}
    (hvalue : IsRead value) : AreRead (Entries.insert key value fields) := by
  refine ⟨Entries.nodup_keys_insert h.nodup key value, fun hfound => ?_⟩
  rw [Entries.find?_insert] at hfound
  split at hfound
  · obtain rfl := Option.some.inj hfound
    exact hvalue
  · exact h.isRead hfound

section

variable {depth below : Depth}

/-- Items that read back as themselves do so one after the other. -/
theorem values_ofJson_items {items : List Json} (h : ∀ item ∈ items, ReadsWithin depth item) :
    (Items.ofJson items).values depth = .ok items := by
  induction items with
  | nil => rfl
  | cons item rest ih =>
    obtain ⟨hitem, hrest⟩ := List.forall_mem_cons.mp h
    exact bind_eq_ok_iff.mpr ⟨item, hitem, bind_eq_ok_iff.mpr ⟨rest, ih hrest, rfl⟩⟩

/-- A list reads back as itself if its items do. -/
theorem readsWithin_array (henter : depth.enter .nowhere = .ok below) {items : List Json}
    (h : ∀ item ∈ items, ReadsWithin below item) : ReadsWithin depth (.array items) :=
  bind_eq_ok_iff.mpr ⟨below, henter, bind_eq_ok_iff.mpr ⟨items, values_ofJson_items h, rfl⟩⟩

/-- Fields whose values read back as themselves do so one after the other. -/
theorem values_ofJson_fields {fields : Entries Json}
    (h : ∀ field ∈ fields, ReadsWithin depth field.2) :
    (Fields.ofJson fields).values depth = .ok fields := by
  induction fields with
  | nil => rfl
  | cons field rest ih =>
    obtain ⟨hfield, hrest⟩ := List.forall_mem_cons.mp h
    exact bind_eq_ok_iff.mpr ⟨field.1, rfl, bind_eq_ok_iff.mpr ⟨field.2, hfield,
      bind_eq_ok_iff.mpr ⟨rest, ih hrest, rfl⟩⟩⟩

/-- An object reads back as itself if no key occurs twice and the values of its fields do. -/
theorem readsWithin_object (henter : depth.enter .nowhere = .ok below) {fields : Entries Json}
    (hnodup : fields.keys.Nodup)
    (h : ∀ {key value}, Entries.find? key fields = some value → ReadsWithin below value) :
    ReadsWithin depth (.object fields) := by
  have hvalues := values_ofJson_fields fun field hfield =>
    h (Entries.find?_of_mem hnodup hfield)
  refine bind_eq_ok_iff.mpr ⟨below, henter, bind_eq_ok_iff.mpr ⟨fields, hvalues, ?_⟩⟩
  rw [Entries.ofPairs_of_nodup hnodup]
  rfl

end

/-- A list of items that were read reads back as itself. -/
theorem isRead_array {items : List Json} (h : ∀ item ∈ items, IsRead item) :
    IsRead (.array items) := readsWithin_array rfl h

/-- An object of fields that were read reads back as itself. -/
theorem AreRead.isRead_object {fields : Entries Json} (h : AreRead fields) :
    IsRead (.object fields) := readsWithin_object rfl h.nodup h.isRead

/-- A limit that allows as much as another one. -/
def Depth.AtLeast : Depth → Depth → Prop
  | none, _ => True
  | some _, none => False
  | some more, some less => less ≤ more

/-- Without a limit as much is allowed as with any. -/
theorem Depth.atLeast_none (depth : Depth) : Depth.AtLeast none depth := trivial

/-- A limit allows as much as itself. -/
theorem Depth.AtLeast.refl (depth : Depth) : depth.AtLeast depth := by
  cases depth with
  | none => trivial
  | some more => exact Nat.le_refl more

/-- Where a list or an object can be entered, it can be with a limit that allows as much. -/
theorem Depth.AtLeast.exists_enter {more depth below : Depth} (h : more.AtLeast depth)
    {start : Mark} (henter : depth.enter start = .ok below) :
    ∃ inside, more.enter .nowhere = .ok inside ∧ inside.AtLeast below := by
  match more, depth with
  | none, _ => exact ⟨none, rfl, trivial⟩
  | some more, some (less + 2) =>
    cases henter
    obtain ⟨rest, rfl⟩ := Nat.exists_eq_add_of_le' h
    exact ⟨some (rest + less + 1), rfl, Nat.add_le_add_right (Nat.le_add_left less rest) 1⟩

mutual

/-- What is read within a limit reads back as itself within any limit that allows as much. -/
theorem readsWithin_of_value {more depth : Depth} (hmore : more.AtLeast depth) (node : Node)
    {value : Json} (h : node.value depth = .ok value) : ReadsWithin more value := by
  match node with
  | .null stop =>
    cases h
    rfl
  | .bool _ stop =>
    cases h
    rfl
  | .number _ stop =>
    obtain ⟨number, -, rfl⟩ := map_eq_ok_iff.mp h
    rfl
  | .string _ stop =>
    obtain ⟨text, -, rfl⟩ := map_eq_ok_iff.mp h
    rfl
  | .array start items =>
    obtain ⟨below, henter, h⟩ := bind_eq_ok_iff.mp h
    obtain ⟨values, hvalues, h⟩ := bind_eq_ok_iff.mp h
    cases h
    obtain ⟨inside, hinside, hmore⟩ := hmore.exists_enter henter
    exact readsWithin_array hinside (readsWithin_of_items hmore items hvalues)
  | .object start fields =>
    obtain ⟨below, henter, h⟩ := bind_eq_ok_iff.mp h
    obtain ⟨pairs, hpairs, h⟩ := bind_eq_ok_iff.mp h
    cases h
    obtain ⟨inside, hinside, hmore⟩ := hmore.exists_enter henter
    have hfields := readsWithin_of_fields hmore fields hpairs
    exact readsWithin_object hinside (Entries.nodup_keys_ofPairs pairs)
      fun hfound => hfields _ (Entries.mem_of_find?_ofPairs hfound)
  | .broken fault => cases h

/-- The items that are read read back as themselves. -/
theorem readsWithin_of_items {more depth : Depth} (hmore : more.AtLeast depth) (items : Items)
    {values : List Json} (h : items.values depth = .ok values) :
    ∀ value ∈ values, ReadsWithin more value := by
  match items with
  | .done =>
    cases h
    simp
  | .broken fault => cases h
  | .item peek value rest =>
    obtain ⟨first, hfirst, h⟩ := bind_eq_ok_iff.mp h
    obtain ⟨others, hothers, h⟩ := bind_eq_ok_iff.mp h
    cases h
    rw [List.forall_mem_cons]
    exact ⟨readsWithin_of_value hmore value hfirst, readsWithin_of_items hmore rest hothers⟩

/-- The values of fields that are read read back as themselves. -/
theorem readsWithin_of_fields {more depth : Depth} (hmore : more.AtLeast depth)
    (fields : Fields) {pairs : List (String × Json)} (h : fields.values depth = .ok pairs) :
    ∀ pair ∈ pairs, ReadsWithin more pair.2 := by
  match fields with
  | .done =>
    cases h
    simp
  | .broken fault => cases h
  | .field key keyMark value valueMark rest =>
    obtain ⟨name, -, h⟩ := bind_eq_ok_iff.mp h
    obtain ⟨first, hfirst, h⟩ := bind_eq_ok_iff.mp h
    obtain ⟨others, hothers, h⟩ := bind_eq_ok_iff.mp h
    cases h
    rw [List.forall_mem_cons]
    exact ⟨readsWithin_of_value hmore value hfirst, readsWithin_of_fields hmore rest hothers⟩

end

/-- Whatever is read reads back as itself. -/
theorem isRead_of_value {depth : Depth} (node : Node) {value : Json}
    (h : node.value depth = .ok value) : IsRead value :=
  readsWithin_of_value (Depth.atLeast_none depth) node h

/-- An object that was read has fields that were. -/
theorem IsRead.areRead {fields : Entries Json} (h : IsRead (.object fields)) : AreRead fields := by
  obtain ⟨below, -, h⟩ := bind_eq_ok_iff.mp h
  obtain ⟨pairs, hpairs, h⟩ := bind_eq_ok_iff.mp h
  cases h
  have hvalues : ∀ pair ∈ pairs, IsRead pair.2 :=
    readsWithin_of_fields (Depth.atLeast_none below) (Fields.ofJson _) hpairs
  exact areRead_ofPairs hvalues

/-- A list that was read has items that were. -/
theorem IsRead.forall_mem {items : List Json} (h : IsRead (.array items)) :
    ∀ item ∈ items, IsRead item := by
  obtain ⟨below, -, h⟩ := bind_eq_ok_iff.mp h
  obtain ⟨values, hvalues, h⟩ := bind_eq_ok_iff.mp h
  cases h
  exact readsWithin_of_items (Depth.atLeast_none below) (Items.ofJson _) hvalues

/-- The values of fields that a reader of values gave were read. -/
theorem isRead_of_mapRead {depth : Depth} (fields : Fields) {pairs : List (String × Json)}
    (h : fields.mapRead (fun _ value => value.value depth) = .ok pairs) :
    ∀ pair ∈ pairs, IsRead pair.2 := by
  match fields with
  | .done =>
    cases h
    simp
  | .broken fault => cases h
  | .field key keyMark value valueMark rest =>
    obtain ⟨name, -, h⟩ := bind_eq_ok_iff.mp h
    obtain ⟨first, hfirst, h⟩ := bind_eq_ok_iff.mp h
    obtain ⟨others, hothers, h⟩ := bind_eq_ok_iff.mp h
    cases h
    rw [List.forall_mem_cons]
    exact ⟨isRead_of_value value hfirst, isRead_of_mapRead rest hothers⟩

/-- The fields of a value are read one by one. -/
theorem mapRead_ofJson {α : Type} (read : Mark → Node → Except Fault α) (fields : Entries Json) :
    (Fields.ofJson fields).mapRead read =
      fields.mapM fun field => do return (field.1, ← read .nowhere (Node.ofJson field.2)) := by
  induction fields with
  | nil => rfl
  | cons field rest ih =>
    rw [List.mapM_cons, ← ih]
    simp only [Fields.ofJson, Fields.mapRead]
    cases read .nowhere (Node.ofJson field.2) <;> rfl

end Json

end Conventions
