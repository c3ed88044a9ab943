import Conventions.Json.Record
import Conventions.Proofs.Except

/-!
# Readers do not look at places

The places in a marked document are there for faults. Where a reader gives a value it gives the
same one whatever the places are, so a document can be read as if it came from a value instead of
a text.
-/

namespace Conventions.Json

mutual

/-- The tree of a value without its places. -/
def Node.unmarked : Node → Node
  | .null _ => .null .nowhere
  | .bool value _ => .bool value .nowhere
  | .number value _ => .number value .nowhere
  | .string value _ => .string value .nowhere
  | .array _ items => .array .nowhere items.unmarked
  | .object _ fields => .object .nowhere fields.unmarked
  | .broken fault => .broken fault

/-- Items without their places. -/
def Items.unmarked : Items → Items
  | .done => .done
  | .broken fault => .broken fault
  | .item _ value rest => .item .nowhere value.unmarked rest.unmarked

/-- Fields without their places. -/
def Fields.unmarked : Fields → Fields
  | .done => .done
  | .broken fault => .broken fault
  | .field key _ value _ rest => .field key .nowhere value.unmarked .nowhere rest.unmarked

end

/-- A reader that gives a value for a tree without places gives it for the tree with them. -/
def IgnoresMarks {α : Type} (read : Node → Except Fault α) : Prop :=
  ∀ node result, read node.unmarked = .ok result → read node = .ok result

/-- Whether a list or an object can be entered does not depend on its place. -/
theorem Depth.enter_eq_ok {depth below : Depth} {start : Mark} (h : depth.enter start = .ok below)
    (other : Mark) : depth.enter other = .ok below := by
  match depth with
  | none => exact h
  | some (_ + 2) => exact h
  | some 0 => cases h
  | some 1 => cases h

mutual

/-- A value that is read does not depend on its place. -/
theorem value_of_unmarked {depth : Depth} (node : Node) {result : Json}
    (h : node.unmarked.value depth = .ok result) : node.value depth = .ok result := by
  match node with
  | .null _ | .bool _ _ | .number _ _ | .string _ _ => exact h
  | .array start items =>
    obtain ⟨below, henter, h⟩ := bind_eq_ok_iff.mp h
    obtain ⟨values, hvalues, h⟩ := bind_eq_ok_iff.mp h
    exact bind_eq_ok_iff.mpr ⟨below, Depth.enter_eq_ok henter start,
      bind_eq_ok_iff.mpr ⟨values, values_of_unmarked_items items hvalues, h⟩⟩
  | .object start fields =>
    obtain ⟨below, henter, h⟩ := bind_eq_ok_iff.mp h
    obtain ⟨values, hvalues, h⟩ := bind_eq_ok_iff.mp h
    exact bind_eq_ok_iff.mpr ⟨below, Depth.enter_eq_ok henter start,
      bind_eq_ok_iff.mpr ⟨values, values_of_unmarked_fields fields hvalues, h⟩⟩
  | .broken _ => cases h

/-- Items that are read do not depend on their places. -/
theorem values_of_unmarked_items {depth : Depth} (items : Items) {result : List Json}
    (h : items.unmarked.values depth = .ok result) : items.values depth = .ok result := by
  match items with
  | .done => exact h
  | .broken _ => cases h
  | .item _ value rest =>
    obtain ⟨first, hfirst, h⟩ := bind_eq_ok_iff.mp h
    obtain ⟨others, hothers, h⟩ := bind_eq_ok_iff.mp h
    exact bind_eq_ok_iff.mpr ⟨first, value_of_unmarked value hfirst,
      bind_eq_ok_iff.mpr ⟨others, values_of_unmarked_items rest hothers, h⟩⟩

/-- Fields that are read do not depend on their places. -/
theorem values_of_unmarked_fields {depth : Depth} (fields : Fields)
    {result : List (String × Json)} (h : fields.unmarked.values depth = .ok result) :
    fields.values depth = .ok result := by
  match fields with
  | .done => exact h
  | .broken _ => cases h
  | .field key _ value _ rest =>
    obtain ⟨name, hname, h⟩ := bind_eq_ok_iff.mp h
    obtain ⟨first, hfirst, h⟩ := bind_eq_ok_iff.mp h
    obtain ⟨others, hothers, h⟩ := bind_eq_ok_iff.mp h
    exact bind_eq_ok_iff.mpr ⟨name, hname, bind_eq_ok_iff.mpr ⟨first,
      value_of_unmarked value hfirst, bind_eq_ok_iff.mpr ⟨others,
        values_of_unmarked_fields rest hothers, h⟩⟩⟩

end

/-- The reader of any value ignores places. -/
theorem ignoresMarks_value (depth : Depth) : IgnoresMarks (Node.value depth) :=
  fun node _ => value_of_unmarked node

/-- The reader of texts ignores places. -/
theorem ignoresMarks_asText : IgnoresMarks Node.asText := by
  intro node result h
  cases node with
  | string value stop => exact h
  | _ => cases h

/-- The reader of switches ignores places. -/
theorem ignoresMarks_asSwitch : IgnoresMarks Node.asSwitch := by
  intro node result h
  cases node with
  | bool value stop => exact h
  | _ => cases h

section

variable {α : Type}

/-- The reader of values that may be null ignores places if the reader of the others does. -/
theorem IgnoresMarks.asOptional {read : Node → Except Fault α} (hread : IgnoresMarks read) :
    IgnoresMarks (Node.asOptional read) := by
  intro node result h
  cases node with
  | null stop => exact h
  | _ =>
    obtain ⟨value, hvalue, h⟩ := map_eq_ok_iff.mp h
    exact map_eq_ok_iff.mpr ⟨value, hread _ value hvalue, h⟩

/-- Items are read without a look at places if each of them is. -/
theorem IgnoresMarks.mapRead_items {read : Node → Except Fault α} (hread : IgnoresMarks read)
    (items : Items) {result : List α} (h : items.unmarked.mapRead read = .ok result) :
    items.mapRead read = .ok result := by
  match items with
  | .done => exact h
  | .broken _ => cases h
  | .item _ value rest =>
    obtain ⟨first, hfirst, h⟩ := bind_eq_ok_iff.mp h
    obtain ⟨others, hothers, h⟩ := bind_eq_ok_iff.mp h
    exact bind_eq_ok_iff.mpr ⟨first, hread value first hfirst,
      bind_eq_ok_iff.mpr ⟨others, hread.mapRead_items rest hothers, h⟩⟩

/-- The reader of lists ignores places if the reader of their items does. -/
theorem IgnoresMarks.asList {read : Depth → Node → Except Fault α}
    (hread : ∀ depth, IgnoresMarks (read depth)) (depth : Depth) :
    IgnoresMarks (Node.asList depth read) := by
  intro node result h
  cases node with
  | array start items =>
    obtain ⟨below, henter, h⟩ := bind_eq_ok_iff.mp h
    exact bind_eq_ok_iff.mpr ⟨below, Depth.enter_eq_ok henter start,
      (hread below).mapRead_items items h⟩
  | _ => cases h

/-- The reader of lists of texts ignores places. -/
theorem ignoresMarks_asTexts (depth : Depth) : IgnoresMarks (Node.asTexts depth) :=
  IgnoresMarks.asList (fun _ => ignoresMarks_asText) depth

/-- Reads what is in a table, and tells the reader of each value its place. It ignores places if
only the faults of this reader tell them. -/
def IgnoresPlaces (read : Mark → Node → Except Fault α) : Prop :=
  ∀ node result, read .nowhere node.unmarked = .ok result → ∀ place, read place node = .ok result

/-- The fields of a table are read without a look at places if each of them is. -/
theorem IgnoresPlaces.mapRead_fields {read : Mark → Node → Except Fault α}
    (hread : IgnoresPlaces read) (fields : Fields) {result : List (String × α)}
    (h : fields.unmarked.mapRead read = .ok result) : fields.mapRead read = .ok result := by
  match fields with
  | .done => exact h
  | .broken _ => cases h
  | .field key _ value place rest =>
    obtain ⟨name, hname, h⟩ := bind_eq_ok_iff.mp h
    obtain ⟨first, hfirst, h⟩ := bind_eq_ok_iff.mp h
    obtain ⟨others, hothers, h⟩ := bind_eq_ok_iff.mp h
    exact bind_eq_ok_iff.mpr ⟨name, hname, bind_eq_ok_iff.mpr ⟨first,
      hread value first hfirst place, bind_eq_ok_iff.mpr ⟨others,
        hread.mapRead_fields rest hothers, h⟩⟩⟩

/-- The reader of tables ignores places if the reader of their values does. -/
theorem IgnoresPlaces.asTable {read : Depth → Mark → Node → Except Fault α}
    (hread : ∀ depth, IgnoresPlaces (read depth)) (depth : Depth) :
    IgnoresMarks (Node.asTable depth read) := by
  intro node result h
  cases node with
  | object start fields =>
    obtain ⟨below, henter, h⟩ := bind_eq_ok_iff.mp h
    exact bind_eq_ok_iff.mpr ⟨below, Depth.enter_eq_ok henter start,
      (hread below).mapRead_fields fields h⟩
  | _ => cases h

end

/-! ### Records -/

mutual

/-- Whether a value can be passed over does not depend on its place. -/
theorem pass_of_unmarked (node : Node) (h : node.unmarked.pass = .ok ()) : node.pass = .ok () := by
  match node with
  | .null _ | .bool _ _ | .number _ _ | .string _ _ => exact h
  | .array _ items => exact pass_of_unmarked_items items h
  | .object _ fields => exact pass_of_unmarked_fields fields h
  | .broken _ => cases h

/-- Whether items can be passed over does not depend on their places. -/
theorem pass_of_unmarked_items (items : Items) (h : items.unmarked.pass = .ok ()) :
    items.pass = .ok () := by
  match items with
  | .done => exact h
  | .broken _ => cases h
  | .item _ value rest =>
    obtain ⟨⟨⟩, hvalue, h⟩ := bind_eq_ok_iff.mp h
    exact bind_eq_ok_iff.mpr ⟨(), pass_of_unmarked value hvalue, pass_of_unmarked_items rest h⟩

/-- Whether fields can be passed over does not depend on their places. -/
theorem pass_of_unmarked_fields (fields : Fields) (h : fields.unmarked.pass = .ok ()) :
    fields.pass = .ok () := by
  match fields with
  | .done => exact h
  | .broken _ => cases h
  | .field _ _ value _ rest =>
    obtain ⟨⟨⟩, hvalue, h⟩ := bind_eq_ok_iff.mp h
    exact bind_eq_ok_iff.mpr ⟨(), pass_of_unmarked value hvalue, pass_of_unmarked_fields rest h⟩

end

namespace RecordShape

variable {σ : Type} {shape : RecordShape σ}
  (hshape : ∀ field ∈ shape.fields, ∀ depth record, IgnoresMarks (field.read depth · record))
include hshape

/-- The fields of a record are read without a look at places if each of them is. -/
theorem readFields_of_unmarked {depth : Depth} (fields : Fields) {record result : σ}
    {seen : List String} (h : shape.readFields depth record seen fields.unmarked = .ok result) :
    shape.readFields depth record seen fields = .ok result := by
  match fields with
  | .done => exact h
  | .broken _ => cases h
  | .field key keyMark value _ rest =>
    obtain ⟨name, hname, h⟩ := bind_eq_ok_iff.mp h
    refine bind_eq_ok_iff.mpr ⟨name, hname, ?_⟩
    cases hfield : shape.field? name with
    | none =>
      rw [hfield] at h
      dsimp only at h ⊢
      split at h
      · cases h
      · next hopen =>
        obtain ⟨⟨⟩, hpass, h⟩ := bind_eq_ok_iff.mp h
        rw [if_neg hopen]
        exact bind_eq_ok_iff.mpr ⟨(), pass_of_unmarked value hpass, readFields_of_unmarked rest h⟩
    | some field =>
      rw [hfield] at h
      dsimp only at h ⊢
      split at h
      · cases h
      · next hnew =>
        obtain ⟨next, hnext, h⟩ := bind_eq_ok_iff.mp h
        rw [if_neg hnew]
        exact bind_eq_ok_iff.mpr ⟨next,
          hshape field (List.mem_of_find?_eq_some hfield) depth record value next hnext,
          readFields_of_unmarked rest h⟩

omit hshape in
/-- Only the end of a list is right behind the last field, wherever it is. -/
theorem listEnd_of_unmarked {length : Nat} {items : Items}
    (h : listEnd length items.unmarked = .ok ()) (other : Nat) : listEnd other items = .ok () := by
  cases items with
  | done => rfl
  | broken fault =>
    simp only [Items.unmarked, listEnd] at h
    split at h <;> cases h
  | item place value rest => cases h

/-- The items of a list are read into a record without a look at places if each field is. -/
theorem readItems_of_unmarked {depth : Depth} {length : Nat} {fields : List (RecordField σ)}
    (hfields : ∀ field ∈ fields, field ∈ shape.fields) {items : Items} {record result : σ}
    (h : readItems depth length record fields items.unmarked = .ok result) (other : Nat) :
    readItems depth other record fields items = .ok result := by
  induction fields generalizing items record with
  | nil =>
    obtain ⟨⟨⟩, hend, h⟩ := bind_eq_ok_iff.mp h
    exact bind_eq_ok_iff.mpr ⟨(), listEnd_of_unmarked hend other, h⟩
  | cons field fields ih =>
    obtain ⟨hfield, hfields⟩ := List.forall_mem_cons.mp hfields
    cases items with
    | done => exact h
    | broken fault => cases h
    | item place value rest =>
      obtain ⟨next, hnext, h⟩ := bind_eq_ok_iff.mp h
      exact bind_eq_ok_iff.mpr ⟨next, hshape field hfield depth record value next hnext,
        ih hfields h⟩

/-- The reader of a record ignores places if the readers of its fields do. -/
theorem ignoresMarks_read (initial : σ) (depth : Depth) :
    IgnoresMarks (shape.read initial depth) := by
  intro node result h
  cases node with
  | object start fields =>
    obtain ⟨below, henter, h⟩ := bind_eq_ok_iff.mp h
    exact bind_eq_ok_iff.mpr ⟨below, Depth.enter_eq_ok henter start,
      readFields_of_unmarked hshape fields h⟩
  | array start items =>
    obtain ⟨below, henter, h⟩ := bind_eq_ok_iff.mp h
    exact bind_eq_ok_iff.mpr ⟨below, Depth.enter_eq_ok henter start,
      readItems_of_unmarked hshape (fun _ hfield => hfield) h _⟩
  | _ => cases h

end RecordShape

end Conventions.Json
