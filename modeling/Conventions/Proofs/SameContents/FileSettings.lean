import Conventions.SameContents.Options
import Conventions.Proofs.Json.Merge
import Conventions.Proofs.Json.Record
import Conventions.Proofs.Json.Tables

/-!
# The setting of one file

The fields of a file are read one by one, and so are its selectors. The setting in which one
selector is off is read as the same file without this selector.
-/

namespace Conventions.SameContents

open Json

/-! ### Tables -/

/-- How a field is read with its name. -/
def readField (field : String × Json) : Except Fault (String × Json) := do
  return (field.1, ← (Node.ofJson field.2).value none)

/-- A field keeps its name. -/
theorem fst_of_readField {field result : String × Json} (h : readField field = .ok result) :
    result.1 = field.1 := by
  obtain ⟨value, -, hresult⟩ := bind_eq_ok_iff.mp h
  cases hresult
  rfl

/-- An object is read as its fields. -/
theorem asFields_object_eq_ok_iff {fields results : Entries Json} :
    asFields none (Node.ofJson (.object fields)) = .ok results ↔
      ∃ pairs, fields.mapM readField = .ok pairs ∧ Entries.ofPairs pairs = results := by
  have htable : asFields none (Node.ofJson (.object fields)) =
      (fields.mapM readField >>= fun pairs => .ok (Entries.ofPairs pairs)) := by
    unfold readField
    rw [← mapRead_ofJson fun _ value => value.value none]
    rfl
  rw [htable, bind_eq_ok_iff]
  simp

/-- Fields that were read read back as themselves. -/
theorem asFields_of_areRead {fields : Entries Json} (h : AreRead fields) :
    asFields none (Node.ofJson (.object fields)) = .ok fields := by
  have hread : ∀ field ∈ fields, readField field = .ok field := fun field hfield =>
    bind_eq_ok_iff.mpr ⟨field.2, h.isRead (Entries.find?_of_mem h.nodup hfield), rfl⟩
  refine asFields_object_eq_ok_iff.mpr ⟨fields, mapM_eq_ok_iff.mpr ?_, Entries.ofPairs_of_nodup h.nodup⟩
  exact List.forall₂_same.mpr hread

/-- What is read as fields was read. -/
theorem areRead_of_asFields {depth : Depth} {node : Node} {fields : Entries Json}
    (h : asFields depth node = .ok fields) : AreRead fields := by
  obtain ⟨pairs, hpairs, h⟩ := bind_eq_ok_iff.mp h
  cases h
  cases node with
  | object start inside =>
    obtain ⟨below, -, hpairs⟩ := bind_eq_ok_iff.mp hpairs
    exact areRead_ofPairs (isRead_of_mapRead inside hpairs)
  | _ => cases hpairs

/-- Only an object is read as fields. -/
theorem exists_of_asFields {value : Json} {fields : Entries Json}
    (h : asFields none (Node.ofJson value) = .ok fields) : ∃ own, value = .object own := by
  cases value with
  | object own => exact ⟨own, rfl⟩
  | _ => cases h

/-- A value that was read, in which another one is set. -/
theorem isRead_withPath {value : Json} (hvalue : IsRead value) (path : List String)
    {document : Json} (h : IsRead document) : IsRead (withPath value path document) := by
  induction path generalizing document with
  | nil => exact hvalue
  | cons key path ih =>
    have hfields : AreRead (document.asObject?.getD []) := by
      cases document with
      | object fields => exact h.areRead
      | _ => exact areRead_nil
    have hbelow : IsRead ((Entries.find? key (document.asObject?.getD [])).getD .null) := by
      cases hfound : Entries.find? key (document.asObject?.getD []) with
      | none => rfl
      | some below => exact hfields.isRead hfound
    exact (hfields.insert key (ih hbelow)).isRead_object

/-- In a table with a switch inserted, the switch is read as it is. -/
theorem asFields_insert_bool {fields results : Entries Json} (hfields : fields.keys.Nodup)
    (h : asFields none (Node.ofJson (.object fields)) = .ok results) (key : String)
    (value : Bool) :
    asFields none (Node.ofJson (.object (Entries.insert key (.bool value) fields))) =
      .ok (Entries.insert key (.bool value) results) := by
  obtain ⟨pairs, hpairs, rfl⟩ := asFields_object_eq_ok_iff.mp h
  have hkeys : (Entries.keys pairs).Nodup := by rwa [Entries.keys_of_mapM fst_of_readField hpairs]
  refine asFields_object_eq_ok_iff.mpr ⟨Entries.insert key (.bool value) pairs,
    Entries.mapM_insert fst_of_readField hpairs rfl, ?_⟩
  rw [Entries.ofPairs_of_nodup hkeys,
    Entries.ofPairs_of_nodup (Entries.nodup_keys_insert hkeys key (.bool value))]

/-! ### Selectors -/

/-- A selector keeps the text that it was written as. -/
theorem raw_of_selector? {raw : String} {setting : Json} {selector : Selector}
    (h : selector? raw setting = .ok (some selector)) : selector.raw = raw := by
  obtain ⟨required?, -, h⟩ := bind_eq_ok_iff.mp h
  cases required? with
  | none => cases h
  | some required =>
    dsimp only at h
    split at h
    · cases h
      rfl
    · cases h

/-- How the setting of a selector is read. -/
def readSelector (name : String) (setting : String × Json) : Except String (Option Selector) :=
  match selector? setting.1 setting.2 with
  | .ok selector => .ok selector
  | .error reason => .error (name ++ ": " ++ reason)

/-- A selector that is read goes by the key of its setting. -/
theorem raw_of_readSelector {name raw : String} {setting : Json} {selector : Selector}
    (h : readSelector name (raw, setting) = .ok (some selector)) : selector.raw = raw := by
  unfold readSelector at h
  split at h
  · next found hfound =>
    cases h
    exact raw_of_selector? hfound
  · cases h

/-- The selectors that are read are those of the keys, in their order. -/
theorem sublist_keys_of_readSelector {name : String} {settings : Entries Json}
    {selectors : List (Option Selector)} (h : settings.mapM (readSelector name) = .ok selectors) :
    ((selectors.filterMap id).map (·.raw)).Sublist settings.keys := by
  induction settings generalizing selectors with
  | nil =>
    cases h
    exact List.Sublist.refl _
  | cons setting rest ih =>
    rw [List.mapM_cons] at h
    obtain ⟨first, hfirst, h⟩ := bind_eq_ok_iff.mp h
    obtain ⟨others, hothers, h⟩ := bind_eq_ok_iff.mp h
    cases h
    cases first with
    | none => exact (ih hothers).cons _
    | some selector =>
      have hraw := raw_of_readSelector hfirst
      change (selector.raw :: (others.filterMap id).map (·.raw)).Sublist
        (setting.1 :: Entries.keys rest)
      rw [hraw]
      exact (ih hothers).cons_cons _

/-- With one of the settings switched off, the selectors are the other ones. -/
theorem exists_readSelector_insert {name : String} {settings : Entries Json}
    (hsettings : settings.keys.Nodup) {selectors : List (Option Selector)}
    (h : settings.mapM (readSelector name) = .ok selectors) (raw : String) :
    ∃ others, (Entries.insert raw (.bool false) settings).mapM (readSelector name) = .ok others ∧
      others.filterMap id = (selectors.filterMap id).filter fun selector => selector.raw != raw := by
  have hoff : readSelector name (raw, .bool false) = .ok none := rfl
  induction settings generalizing selectors with
  | nil =>
    cases h
    exact ⟨[none], by simp [Entries.insert, hoff], rfl⟩
  | cons setting rest ih =>
    obtain ⟨k, value⟩ := setting
    obtain ⟨hfirst, hrest⟩ := List.nodup_cons.mp hsettings
    rw [List.mapM_cons] at h
    obtain ⟨first, hread, h⟩ := bind_eq_ok_iff.mp h
    obtain ⟨others, hothers, h⟩ := bind_eq_ok_iff.mp h
    cases h
    rw [Entries.insert_cons]
    by_cases heq : k = raw
    · subst heq
      refine ⟨none :: others, by rw [if_pos rfl, List.mapM_cons, hoff, hothers]; rfl, ?_⟩
      -- No later selector goes by the key, so the filter takes away the first one only.
      have hkept : (others.filterMap id).filter (fun selector => selector.raw != k) =
          others.filterMap id := by
        refine List.filter_eq_self.mpr fun selector hselector => bne_iff_ne.mpr ?_
        rintro rfl
        exact hfirst ((sublist_keys_of_readSelector hothers).subset (List.mem_map_of_mem hselector))
      cases first with
      | none => exact hkept.symm
      | some selector =>
        have hraw := raw_of_readSelector hread
        change others.filterMap id = (selector :: others.filterMap id).filter _
        rw [List.filter_cons_of_neg (by simp [hraw]), hkept]
    · obtain ⟨after, hafter, hfilter⟩ := ih hrest hothers
      refine ⟨first :: after, by rw [if_neg heq, List.mapM_cons, hread, hafter]; rfl, ?_⟩
      cases first with
      | none => exact hfilter
      | some selector =>
        have hraw := raw_of_readSelector hread
        change selector :: after.filterMap id = (selector :: others.filterMap id).filter _
        rw [List.filter_cons_of_pos (by simp [hraw, heq]), hfilter]

/-! ### The setting of a file -/

/-- The setting of a file with other selectors. -/
def FileSetting.withSelectors (table : Entries Json) (setting : FileSetting) : FileSetting :=
  { setting with selectors := table }

/-- The field of the selectors. -/
theorem field?_selectors : ∃ field, fileShape.field? "selectors" = some field ∧
    field.name = "selectors" ∧ ∀ depth node setting next,
      field.read depth node setting = .ok next ↔
        ∃ table, asFields depth node = .ok table ∧ setting.withSelectors table = next := by
  refine ⟨_, rfl, rfl, fun depth node setting next => bind_eq_ok_iff.trans ?_⟩
  simp only [pure, Except.pure, Except.ok.injEq, FileSetting.withSelectors]

/-- The other fields neither look at the selectors nor change them. -/
theorem read_of_ne_selectors {key : String} {field : RecordField FileSetting}
    (hfield : fileShape.field? key = some field) (hkey : key ≠ "selectors") :
    field.name ≠ "selectors" ∧ ∀ {depth node setting next},
      field.read depth node setting = .ok next → next.selectors = setting.selectors ∧
        ∀ table, field.read depth node (setting.withSelectors table) =
          .ok (next.withSelectors table) := by
  have hmem := RecordShape.mem_fields_of_field? hfield
  have hname := List.find?_some hfield
  simp only [fileShape, List.mem_cons, List.not_mem_nil, or_false] at hmem
  rcases hmem with rfl | rfl | rfl
  · refine ⟨by decide, fun h => ?_⟩
    obtain ⟨value, hvalue, hnext⟩ := bind_eq_ok_iff.mp h
    cases hnext
    exact ⟨rfl, fun table => bind_eq_ok_iff.mpr ⟨value, hvalue, rfl⟩⟩
  · refine ⟨by decide, fun h => ?_⟩
    obtain ⟨value, hvalue, hnext⟩ := bind_eq_ok_iff.mp h
    cases hnext
    exact ⟨rfl, fun table => bind_eq_ok_iff.mpr ⟨value, hvalue, rfl⟩⟩
  · simp at hname
    exact absurd hname.symm hkey

/-- One field is read after the other, and none of them twice. -/
theorem readFields_cons_eq_ok_iff {setting result : FileSetting} {seen : List String}
    {key : String} {value : Json} {rest : Entries Json} :
    fileShape.readFields none setting seen (Fields.ofJson ((key, value) :: rest)) = .ok result ↔
      ∃ field next, fileShape.field? key = some field ∧ field.name ∉ seen ∧
        field.read none (Node.ofJson value) setting = .ok next ∧
        fileShape.readFields none next (field.name :: seen) (Fields.ofJson rest) = .ok result := by
  simp only [Fields.ofJson, RecordShape.readFields]
  rw [bind_eq_ok_iff]
  simp only [Except.ok.injEq, exists_eq_left']
  cases hfield : fileShape.field? key with
  | none => simp [fileShape]
  | some field =>
    by_cases hseen : field.name ∈ seen
    · simp [hseen]
    · simp [hseen, bind_eq_ok_iff]

/-- Behind the selectors, the other fields are read whatever the selectors are. -/
theorem readFields_of_seen {fields : Entries Json} {seen : List String}
    (hseen : "selectors" ∈ seen) {setting result : FileSetting}
    (h : fileShape.readFields none setting seen (Fields.ofJson fields) = .ok result) :
    result.selectors = setting.selectors ∧
      ∀ table, fileShape.readFields none (setting.withSelectors table) seen
        (Fields.ofJson fields) = .ok (result.withSelectors table) := by
  induction fields generalizing seen setting with
  | nil =>
    cases h
    exact ⟨rfl, fun table => rfl⟩
  | cons entry rest ih =>
    obtain ⟨key, value⟩ := entry
    obtain ⟨field, next, hfield, hnew, hread, hrest⟩ := readFields_cons_eq_ok_iff.mp h
    have hkey : key ≠ "selectors" := by
      rintro rfl
      obtain ⟨own, hown, hname, -⟩ := field?_selectors
      obtain rfl := Option.some.inj (hown.symm.trans hfield)
      exact hnew (hname ▸ hseen)
    obtain ⟨-, hother⟩ := read_of_ne_selectors hfield hkey
    obtain ⟨hkept, htable⟩ := hother hread
    obtain ⟨hresult, hothers⟩ := ih (List.mem_cons_of_mem _ hseen) hrest
    exact ⟨hresult.trans hkept, fun table => readFields_cons_eq_ok_iff.mpr
      ⟨field, _, hfield, hnew, htable table, hothers table⟩⟩

/-- The selectors are those under their key, and with another value there they are what is read of
it. -/
theorem readFields_insert_selectors {fields : Entries Json} {seen : List String}
    (hseen : "selectors" ∉ seen) {setting result : FileSetting}
    (h : fileShape.readFields none setting seen (Fields.ofJson fields) = .ok result) :
    (match Entries.find? "selectors" fields with
      | some value => asFields none (Node.ofJson value) = .ok result.selectors
      | none => result.selectors = setting.selectors) ∧
    ∀ value table, asFields none (Node.ofJson value) = .ok table →
      fileShape.readFields none setting seen
        (Fields.ofJson (Entries.insert "selectors" value fields)) =
          .ok (result.withSelectors table) := by
  obtain ⟨own, hown, hname, hselectors⟩ := field?_selectors
  induction fields generalizing seen setting with
  | nil =>
    cases h
    refine ⟨rfl, fun value table htable => readFields_cons_eq_ok_iff.mpr ?_⟩
    exact ⟨own, _, hown, hname ▸ hseen, (hselectors _ _ _ _).mpr ⟨table, htable, rfl⟩, rfl⟩
  | cons entry rest ih =>
    obtain ⟨key, old⟩ := entry
    obtain ⟨field, next, hfield, hnew, hread, hrest⟩ := readFields_cons_eq_ok_iff.mp h
    by_cases hkey : key = "selectors"
    · subst hkey
      obtain rfl := Option.some.inj (hown.symm.trans hfield)
      obtain ⟨first, hfirst, rfl⟩ := (hselectors _ _ _ _).mp hread
      obtain ⟨hkept, hothers⟩ := readFields_of_seen (hname ▸ List.mem_cons_self) hrest
      refine ⟨?_, fun value table htable => readFields_cons_eq_ok_iff.mpr ?_⟩
      · simpa [Entries.find?, hkept, FileSetting.withSelectors] using hfirst
      · exact ⟨own, _, hown, hnew, (hselectors _ _ _ _).mpr ⟨table, htable, rfl⟩, hothers table⟩
    · obtain ⟨hother, hreads⟩ := read_of_ne_selectors hfield hkey
      obtain ⟨hkept, -⟩ := hreads hread
      obtain ⟨hfound, hothers⟩ := ih (by simp [Ne.symm hother, hseen]) hrest
      refine ⟨by simpa [Entries.find?, hkey, hkept] using hfound, fun value table htable => ?_⟩
      rw [Entries.insert_cons, if_neg hkey]
      exact readFields_cons_eq_ok_iff.mpr
        ⟨field, next, hfield, hnew, hread, hothers value table htable⟩

/-! ### Files -/

/-- When and how the setting of a file is read. -/
theorem readFile_eq_ok_iff {name : String} {value : Json} {entry : FileEntry} :
    readFile name value = .ok entry ↔ ∃ setting selectors,
      readAs (fileShape.read {}) value = .ok setting ∧
      (0 ≤ setting.minSimilarity.toRat ∧ setting.minSimilarity.toRat ≤ 100) ∧
      setting.selectors.mapM (readSelector name) = .ok selectors ∧
      entry = ⟨name, setting.enabled, setting.minSimilarity, selectors.filterMap id⟩ := by
  unfold readFile
  cases hread : readAs (fileShape.read {}) value with
  | error fault =>
    constructor
    · intro h
      cases h
    · rintro ⟨setting, selectors, h, -⟩
      cases h
  | ok setting =>
    dsimp only
    split
    · next hrange =>
      constructor
      · intro h
        cases h
      · rintro ⟨found, selectors, h, hinside, -⟩
        cases h
        rw [Bool.or_eq_true, decide_eq_true_iff, decide_eq_true_iff, ← Rat.not_le,
          ← Rat.not_le] at hrange
        exact absurd hinside (not_and_or.mpr hrange)
    · next hrange =>
      rw [Bool.or_eq_true, decide_eq_true_iff, decide_eq_true_iff, not_or, Rat.not_lt,
        Rat.not_lt] at hrange
      constructor
      · intro h
        obtain ⟨selectors, hselectors, h⟩ := bind_eq_ok_iff.mp h
        cases h
        exact ⟨setting, selectors, rfl, hrange, hselectors, rfl⟩
      · rintro ⟨found, selectors, h, -, hselectors, rfl⟩
        cases h
        exact bind_eq_ok_iff.mpr ⟨selectors, hselectors, rfl⟩

/-- What is read of an object is read under the keys of the selectors too: a table, if there is
anything. -/
theorem selectors_of_readAs {fields : Entries Json} {setting : FileSetting}
    (h : readAs (fileShape.read {}) (.object fields) = .ok setting) :
    (match Entries.find? "selectors" fields with
      | some value => asFields none (Node.ofJson value) = .ok setting.selectors
      | none => setting.selectors = []) ∧
    ∀ value table, asFields none (Node.ofJson value) = .ok table →
      readAs (fileShape.read {}) (.object (Entries.insert "selectors" value fields)) =
        .ok (setting.withSelectors table) :=
  readFields_insert_selectors (by simp) h

/-- What is under the selectors of a file that is read is an object. -/
theorem object_of_readFile {name : String} {fields : Entries Json} {entry : FileEntry}
    (h : readFile name (.object fields) = .ok entry) {value : Json}
    (hvalue : Entries.find? "selectors" fields = some value) : ∃ table, value = .object table := by
  obtain ⟨setting, -, hread, -⟩ := readFile_eq_ok_iff.mp h
  obtain ⟨hfound, -⟩ := selectors_of_readAs hread
  rw [hvalue] at hfound
  exact exists_of_asFields hfound

/-- No two selectors of a file go by the same text. -/
theorem nodup_raws_of_readFile {name : String} {fields : Entries Json} {entry : FileEntry}
    (h : readFile name (.object fields) = .ok entry) : (entry.selectors.map (·.raw)).Nodup := by
  obtain ⟨setting, selectors, hread, -, hselectors, rfl⟩ := readFile_eq_ok_iff.mp h
  refine (sublist_keys_of_readSelector hselectors).nodup ?_
  obtain ⟨hfound, -⟩ := selectors_of_readAs hread
  split at hfound
  · exact (areRead_of_asFields hfound).nodup
  · rw [hfound]
    exact List.nodup_nil

/-- The file whose setting has a selector switched off is the same without this selector. -/
theorem readFile_withPath {name raw : String} {fields : Entries Json} {entry : FileEntry}
    (hleads : LeadsAlong ["selectors", raw] (.object fields))
    (h : readFile name (.object fields) = .ok entry) :
    readFile name (withPath (.bool false) ["selectors", raw] (.object fields)) =
      .ok { entry with selectors := entry.selectors.filter fun selector => selector.raw != raw } := by
  obtain ⟨setting, selectors, hread, hrange, hselectors, rfl⟩ := readFile_eq_ok_iff.mp h
  obtain ⟨hfound, hothers⟩ := selectors_of_readAs hread
  obtain ⟨_, hobject, -, hbelow⟩ := hleads
  cases hobject
  -- The table under the key is the one that was read, and there is an empty one otherwise.
  obtain ⟨table, htable, hnodup, hsame⟩ : ∃ table, asFields none (Node.ofJson (.object table)) =
      .ok setting.selectors ∧ (Entries.keys table).Nodup ∧
        ((Entries.find? "selectors" fields).getD .null).asObject?.getD [] = table := by
    cases hvalue : Entries.find? "selectors" fields with
    | none =>
      rw [hvalue] at hfound
      exact ⟨[], by rw [hfound]; rfl, List.nodup_nil, rfl⟩
    | some value =>
      rw [hvalue] at hfound
      obtain ⟨table, rfl, hnodup, -⟩ := hbelow value hvalue
      exact ⟨table, hfound, hnodup, rfl⟩
  have hkeys : setting.selectors.keys.Nodup := (areRead_of_asFields htable).nodup
  obtain ⟨others, hread', hfilter⟩ := exists_readSelector_insert hkeys hselectors raw
  rw [← hfilter]
  refine readFile_eq_ok_iff.mpr
    ⟨setting.withSelectors (Entries.insert raw (.bool false) setting.selectors), others, ?_,
      hrange, hread', rfl⟩
  have hoff := hothers _ _ (asFields_insert_bool hnodup htable raw false)
  rw [← hsame] at hoff
  exact hoff

end Conventions.SameContents
