import Conventions.Proofs.Insertion
import Conventions.Proofs.Json.Record

/-!
# One field of a record

A part of a record that only one of the fields sets is what is read under the names of this
field, whatever else there is in the object, and keeps its initial value if nothing is there. No
object that is read has two fields that are the same one.
-/

namespace Conventions.Json.RecordShape

variable {σ β : Type} {shape : RecordShape σ}

/-- A key by which a field goes. -/
def GoesBy (shape : RecordShape σ) (name key : String) : Prop :=
  ∃ field, shape.field? key = some field ∧ field.name = name

/-- One field alone sets a part of the record, to what is read of the value of the field. -/
structure Sets (shape : RecordShape σ) (name : String) (part : σ → β)
    (read : Depth → Node → Except Fault β) : Prop where
  own : ∀ field ∈ shape.fields, field.name = name → ∀ {depth node record result},
    field.read depth node record = .ok result → read depth node = .ok (part result)
  others : ∀ field ∈ shape.fields, field.name ≠ name → ∀ {depth node record result},
    field.read depth node record = .ok result → part result = part record

/-- What is under the names of a field sets a part of a record; if nothing is, the part keeps its
initial value. -/
structure IsSet (shape : RecordShape σ) (name : String) (read : Node → Except Fault β)
    (fields : Entries Json) (initial part : β) : Prop where
  found : ∀ {key value}, Entries.find? key fields = some value → shape.GoesBy name key →
    read (Node.ofJson value) = .ok part
  absent : (∀ key, shape.GoesBy name key → Entries.find? key fields = none) → part = initial

/-- Other fields do not count. -/
theorem IsSet.cons {name first : String} {read : Node → Except Fault β} {rest : Entries Json}
    {initial part : β} (h : shape.IsSet name read rest initial part)
    (hother : ¬ shape.GoesBy name first) (value : Json) :
    shape.IsSet name read ((first, value) :: rest) initial part := by
  have hskip : ∀ {key}, shape.GoesBy name key →
      Entries.find? key ((first, value) :: rest) = Entries.find? key rest := by
    intro key hkey
    have hne : first ≠ key := fun heq => hother (heq ▸ hkey)
    simp [Entries.find?, hne]
  exact ⟨fun hvalue hkey => h.found (hskip hkey ▸ hvalue) hkey,
    fun hnone => h.absent fun key hkey => hskip hkey ▸ hnone key hkey⟩

variable {depth : Depth} {record result : σ} {seen : List String}

/-- One field is passed over or read after the other, and none is read twice. -/
theorem cases_of_readFields_cons {key : String} {value : Json} {rest : Entries Json}
    (h : shape.readFields depth record seen (Fields.ofJson ((key, value) :: rest)) = .ok result) :
    (shape.field? key = none ∧
      shape.readFields depth record seen (Fields.ofJson rest) = .ok result) ∨
    ∃ field next, shape.field? key = some field ∧ field.name ∉ seen ∧
      field.read depth (Node.ofJson value) record = .ok next ∧
      shape.readFields depth next (field.name :: seen) (Fields.ofJson rest) = .ok result := by
  simp only [Fields.ofJson, readFields] at h
  obtain ⟨_, hkey, h⟩ := bind_eq_ok_iff.mp h
  cases hkey
  split at h
  · next hfield =>
    split at h
    · cases h
    · obtain ⟨-, -, h⟩ := bind_eq_ok_iff.mp h
      exact Or.inl ⟨hfield, h⟩
  · next field hfield =>
    split at h
    · cases h
    · next hseen =>
      obtain ⟨next, hnext, h⟩ := bind_eq_ok_iff.mp h
      exact Or.inr ⟨field, next, hfield, by simpa using hseen, hnext, h⟩

variable {name : String} {part : σ → β} {read : Depth → Node → Except Fault β}

/-- Behind its field a part stays, and the field does not occur again. -/
theorem Sets.part_of_seen (hsets : shape.Sets name part read) {fields : Entries Json}
    (hseen : name ∈ seen)
    (h : shape.readFields depth record seen (Fields.ofJson fields) = .ok result) :
    part result = part record ∧ ∀ key ∈ fields.keys, ¬ shape.GoesBy name key := by
  induction fields generalizing seen record with
  | nil =>
    cases h
    exact ⟨rfl, fun key hkey => nomatch hkey⟩
  | cons entry rest ih =>
    obtain ⟨key, value⟩ := entry
    rw [Entries.keys, List.map_cons, List.forall_mem_cons]
    rcases cases_of_readFields_cons h with
      ⟨hnone, hrest⟩ | ⟨field, next, hfield, hnew, hread, hrest⟩
    · obtain ⟨hpart, hkeys⟩ := ih hseen hrest
      refine ⟨hpart, ?_, hkeys⟩
      rintro ⟨field, hfield, -⟩
      cases hnone.symm.trans hfield
    · obtain ⟨hpart, hkeys⟩ := ih (List.mem_cons_of_mem _ hseen) hrest
      have hother : field.name ≠ name := fun heq => hnew (heq ▸ hseen)
      have hkept := hsets.others field (mem_fields_of_field? hfield) hother hread
      refine ⟨hpart.trans hkept, ?_, hkeys⟩
      rintro ⟨own, hown, hname⟩
      obtain rfl := Option.some.inj (hfield.symm.trans hown)
      exact hother hname

/-- A part of a record is set by what is under the names of its field. -/
theorem Sets.isSet (hsets : shape.Sets name part read) {fields : Entries Json}
    (hseen : name ∉ seen)
    (h : shape.readFields depth record seen (Fields.ofJson fields) = .ok result) :
    shape.IsSet name (read depth) fields (part record) (part result) := by
  induction fields generalizing seen record with
  | nil =>
    cases h
    exact ⟨fun hvalue => (nomatch hvalue), fun _ => rfl⟩
  | cons entry rest ih =>
    obtain ⟨first, value⟩ := entry
    rcases cases_of_readFields_cons h with
      ⟨hnone, hrest⟩ | ⟨field, next, hfield, hnew, hread, hrest⟩
    · refine (ih hseen hrest).cons ?_ value
      rintro ⟨field, hfield, -⟩
      cases hnone.symm.trans hfield
    · have hmem := mem_fields_of_field? hfield
      by_cases hname : field.name = name
      · -- The field is read here, so it is not among the rest.
        obtain ⟨hkept, hkeys⟩ := hsets.part_of_seen (by simp [hname]) hrest
        have hown := hsets.own field hmem hname hread
        refine ⟨fun {key found} hvalue hkey => ?_, fun hnone => ?_⟩
        · by_cases heq : first = key
          · obtain rfl : value = found := by simpa [Entries.find?, heq] using hvalue
            rw [hown, hkept]
          · rw [Entries.find?, if_neg heq] at hvalue
            exact absurd hkey (hkeys key (Entries.mem_keys_iff_isSome.mpr (by simp [hvalue])))
        · have hfirst := hnone first ⟨field, hfield, hname⟩
          simp [Entries.find?] at hfirst
      · have hkept := hsets.others field hmem hname hread
        rw [← hkept]
        refine (ih (by simp [Ne.symm hname, hseen]) hrest).cons ?_ value
        rintro ⟨own, hown, howns⟩
        obtain rfl := Option.some.inj (hfield.symm.trans hown)
        exact hname howns

/-- The entry of a field that may be left out. -/
def optionalEntry {α : Type} (key : String) (toJson : α → Json) (value? : Option α) :
    Entries Json :=
  value?.toList.map fun value => (key, toJson value)

/-- Fields are read into a record, whatever was there of the fields with some names, and no other
field. -/
def ReadsInto (shape : RecordShape σ) (depth : Depth) (known : List String) (record : σ)
    (fields : Entries Json) (result : σ) : Prop :=
  ∀ seen, seen ⊆ known → shape.readFields depth record seen (Fields.ofJson fields) = .ok result

/-- A field that may be left out is read into the record, and what follows into the result. -/
theorem readsInto_optionalEntry {α : Type} (next : σ) {key : String} {field : RecordField σ}
    (hfield : shape.field? key = some field) {known : List String} (hnew : field.name ∉ known)
    {toJson : α → Json} {value? : Option α} (habsent : value? = none → next = record)
    (hread : ∀ value ∈ value?, field.read depth (Node.ofJson (toJson value)) record = .ok next)
    {rest : Entries Json}
    (hrest : shape.ReadsInto depth (field.name :: known) next rest result) :
    shape.ReadsInto depth known record (optionalEntry key toJson value? ++ rest) result := by
  intro seen hseen
  cases value? with
  | none =>
    rw [← habsent rfl]
    exact hrest seen (List.subset_cons_of_subset _ hseen)
  | some value =>
    have hvalue := hread value rfl
    have hbehind := hrest (field.name :: seen) (List.cons_subset_cons _ hseen)
    have hnotSeen : ¬ seen.contains field.name = true := fun hmem =>
      hnew (hseen (List.contains_iff_mem.mp hmem))
    refine bind_eq_ok_iff.mpr ⟨key, rfl, ?_⟩
    rw [hfield]
    dsimp only
    rw [if_neg hnotSeen]
    exact bind_eq_ok_iff.mpr ⟨next, hvalue, hbehind⟩

end Conventions.Json.RecordShape
