import Conventions.Json.Record
import Conventions.Proofs.Except

/-!
# What reading a record preserves

A record is read field by field, in the order of an object or of a list. What every field
preserves holds of the record as a whole.
-/

namespace Conventions.Json.RecordShape

variable {σ : Type} {shape : RecordShape σ} {P : σ → Prop} {depth : Depth}

/-- Every field of a shape keeps a property of the record that it is read into. -/
def Preserves (shape : RecordShape σ) (P : σ → Prop) : Prop :=
  ∀ field ∈ shape.fields, ∀ depth node record result,
    P record → field.read depth node record = .ok result → P result

/-- Every field of a shape keeps a property of the record that it is read into, within a limit. -/
def PreservesAt (shape : RecordShape σ) (depth : Depth) (P : σ → Prop) : Prop :=
  ∀ field ∈ shape.fields, ∀ node record result,
    P record → field.read depth node record = .ok result → P result

/-- A field that is found by its name is one of the shape. -/
theorem mem_fields_of_field? {name : String} {field : RecordField σ}
    (h : shape.field? name = some field) : field ∈ shape.fields :=
  List.mem_of_find?_eq_some h

/-- Reading the fields of an object keeps what each field keeps. -/
theorem readFields_preserves (hfields : shape.PreservesAt depth P) (fields : Fields)
    {record result : σ} {seen : List String} (hrecord : P record)
    (h : shape.readFields depth record seen fields = .ok result) : P result := by
  match fields with
  | .done =>
    cases h
    exact hrecord
  | .broken fault => cases h
  | .field key keyMark value valueMark rest =>
    obtain ⟨name, -, h⟩ := bind_eq_ok_iff.mp h
    split at h
    · split at h
      · cases h
      · obtain ⟨-, -, h⟩ := bind_eq_ok_iff.mp h
        exact readFields_preserves hfields rest hrecord h
    · next field hfield =>
      split at h
      · cases h
      · obtain ⟨next, hnext, h⟩ := bind_eq_ok_iff.mp h
        have hkept := hfields field (mem_fields_of_field? hfield) value record next hrecord hnext
        exact readFields_preserves hfields rest hkept h

/-- Reading the items of a list keeps what each field keeps. -/
theorem readItems_preserves (hfields : shape.PreservesAt depth P) {length : Nat}
    {fields : List (RecordField σ)} (hshape : ∀ field ∈ fields, field ∈ shape.fields)
    {items : Items} {record result : σ} (hrecord : P record)
    (h : readItems depth length record fields items = .ok result) : P result := by
  induction fields generalizing items record with
  | nil =>
    obtain ⟨-, -, h⟩ := bind_eq_ok_iff.mp h
    cases h
    exact hrecord
  | cons field rest ih =>
    cases items with
    | done =>
      cases h
      exact hrecord
    | broken fault => cases h
    | item mark value more =>
      obtain ⟨next, hnext, h⟩ := bind_eq_ok_iff.mp h
      have hkept := hfields field (hshape field (by simp)) value record next hrecord hnext
      exact ih (fun other hother => hshape other (List.mem_cons_of_mem _ hother)) hkept h

/-- Reading a record keeps what each of its fields keeps inside of it. -/
theorem read_preservesAt
    (hfields : ∀ {start below}, depth.enter start = .ok below → shape.PreservesAt below P)
    {initial result : σ} (hinitial : P initial) {node : Node}
    (h : shape.read initial depth node = .ok result) : P result := by
  cases node with
  | object start fields =>
    obtain ⟨below, henter, h⟩ := bind_eq_ok_iff.mp h
    exact readFields_preserves (hfields henter) fields hinitial h
  | array start items =>
    obtain ⟨below, henter, h⟩ := bind_eq_ok_iff.mp h
    exact readItems_preserves (hfields henter) (fun field hfield => hfield) hinitial h
  | _ => cases h

/-- Reading a record keeps what each of its fields keeps. -/
theorem read_preserves (hfields : shape.Preserves P) {initial result : σ} (hinitial : P initial)
    {node : Node} (h : shape.read initial depth node = .ok result) : P result :=
  read_preservesAt (fun _ field hfield => hfields field hfield _) hinitial h

end Conventions.Json.RecordShape
