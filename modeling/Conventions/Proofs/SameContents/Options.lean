import Conventions.Proofs.Entries
import Conventions.Proofs.SameContents.FileSettings

/-!
# A selector that is switched off

In the setting of the rule, the difference is at the end of one path: under the file, its
selectors, and the text of the selector. So it is in the merge with the defaults, and of the files
that are read from there, the one file lacks the selector.
-/

namespace Conventions.SameContents

open Json

/-! ### Object forms -/

/-- The object form of what is set for a file, with the name of the file. -/
def normalFile (file : String × Json) : Except String (String × Json) := do
  return (file.1, ← normalEntry file.2)

/-- A file keeps its name. -/
theorem fst_of_normalFile {file result : String × Json} (h : normalFile file = .ok result) :
    result.1 = file.1 := by
  obtain ⟨entry, -, hresult⟩ := bind_eq_ok_iff.mp h
  cases hresult
  rfl

/-- Files have object forms if each of them does. -/
theorem normalFiles_eq_ok_iff {files : Entries Json} {normal : Json} :
    normalFiles files = .ok normal ↔
      ∃ fields, files.mapM normalFile = .ok fields ∧ .object fields = normal := by
  have hfiles : normalFiles files = (files.mapM normalFile >>= fun fields => .ok (.object fields)) :=
    rfl
  rw [hfiles, bind_eq_ok_iff]
  simp

/-- A list of selectors becomes a table. -/
theorem selectorTable_eq_ok {selectors : List Json} {table : Json}
    (h : selectorTable selectors = .ok table) : ∃ fields, table = .object fields ∧ AreRead fields := by
  obtain ⟨names, -, h⟩ := bind_eq_ok_iff.mp h
  cases h
  refine ⟨_, rfl, areRead_ofPairs ?_⟩
  rw [List.forall_mem_map]
  exact fun name _ => rfl

/-- The object form is a table. -/
theorem exists_of_normalEntry {entry normal : Json} (hentry : IsRead entry)
    (h : normalEntry entry = .ok normal) : ∃ fields, normal = .object fields ∧ AreRead fields := by
  unfold normalEntry at h
  split at h
  · next enabled =>
    cases h
    exact ⟨_, rfl, areRead_nil.insert "enabled" rfl⟩
  · next fields =>
    split at h
    · next selectors hselectors =>
      obtain ⟨table, htable, h⟩ := bind_eq_ok_iff.mp h
      cases h
      obtain ⟨inside, rfl, hinside⟩ := selectorTable_eq_ok htable
      exact ⟨_, rfl, hentry.areRead.insert "selectors" hinside.isRead_object⟩
    · cases h
      exact ⟨fields, rfl, hentry.areRead⟩
  · cases h

/-- A selector can be switched off in the object form only, and there it is switched off where it
is written. -/
theorem normalEntry_withPath (raw : String) (document : Json) :
    normalEntry (withPath (.bool false) ["selectors", raw] document) =
      .ok (withPath (.bool false) ["selectors", raw] document) := by
  simp only [withPath, normalEntry, Entries.find?_insert, if_pos]

/-! ### The path of a selector -/

/-- The way to a selector of a file. -/
abbrev selectorPath (file raw : String) : List String := [file, "selectors", raw]

/-- The way to a selector leads through objects, as far as it goes, if what is under the selectors
of the file is one. -/
theorem leadsAlong_normal {files fields : Entries Json} (hfiles : AreRead files)
    (hnormal : files.mapM normalFile = .ok fields) {file : String}
    (hobject : ∀ inside value, Entries.find? file fields = some (.object inside) →
      (Entries.keys inside).Nodup → Entries.find? "selectors" inside = some value →
        ∃ table, value = .object table)
    (raw : String) : LeadsAlong (selectorPath file raw) (.object fields) := by
  have hkeys : (Entries.keys fields).Nodup := by
    rw [Entries.keys_of_mapM fst_of_normalFile hnormal]
    exact hfiles.nodup
  refine ⟨fields, rfl, hkeys, fun below hbelow => ?_⟩
  obtain ⟨entry, hentry, hread⟩ := Entries.find?_of_mapM fst_of_normalFile hnormal hbelow
  obtain ⟨form, hform, hresult⟩ := bind_eq_ok_iff.mp hread
  cases hresult
  obtain ⟨inside, rfl, hinside⟩ := exists_of_normalEntry (hfiles.isRead hentry) hform
  refine ⟨inside, rfl, hinside.nodup, fun value hvalue => ?_⟩
  obtain ⟨table, rfl⟩ := hobject inside value hbelow hinside.nodup hvalue
  exact ⟨table, rfl, (hinside.isRead hvalue).areRead.nodup, fun _ _ => trivial⟩

/-- By default a file is switched on, or has a list of selectors. -/
theorem default_entry {file : String} {entry : Json}
    (h : Entries.find? file defaultFiles = some entry) :
    entry = .bool true ∨ ∃ selectors, entry = .object [("selectors", .array selectors)] := by
  have hmem := Entries.mem_of_find? h
  simp only [defaultFiles, wholeFile, partsOf, List.mem_cons, Prod.mk.injEq, List.not_mem_nil,
    or_false] at hmem
  rcases hmem with h | h | h | h | h | h | h | h | h | h | h
  all_goals simp [h.2]

/-- The way to a selector leads through the defaults. -/
theorem leadsAlong_defaults {defaults : Entries Json}
    (h : defaultFiles.mapM normalFile = .ok defaults) (file raw : String) :
    LeadsAlong (selectorPath file raw) (.object defaults) := by
  have hdefaults : AreRead defaultFiles := IsRead.areRead rfl
  refine leadsAlong_normal hdefaults h (fun inside value hinside _ hvalue => ?_) raw
  obtain ⟨entry, hentry, hread⟩ := Entries.find?_of_mapM fst_of_normalFile h hinside
  obtain ⟨form, hform, hresult⟩ := bind_eq_ok_iff.mp hread
  cases hresult
  rcases default_entry hentry with rfl | ⟨selectors, rfl⟩
  · cases hform
    simp [Entries.find?] at hvalue
  · obtain ⟨table, htable, hform⟩ := bind_eq_ok_iff.mp hform
    cases hform
    rw [Entries.find?_insert, if_pos rfl] at hvalue
    obtain rfl := Option.some.inj hvalue
    obtain ⟨fields, rfl, -⟩ := selectorTable_eq_ok htable
    exact ⟨fields, rfl⟩

/-- Where the merge of files with earlier ones is read, what is under the selectors of the later
ones is an object. -/
theorem object_of_merge {base fields : Entries Json} {file raw : String}
    (hbase : LeadsAlong (selectorPath file raw) (.object base)) (hfields : fields.keys.Nodup)
    (hread : ∀ field ∈ mergeFields base fields, ∃ entry, readFile field.1 field.2 = .ok entry)
    {inside : Entries Json} {value : Json} (hinside : Entries.find? file fields = some (.object inside))
    (hnodup : inside.keys.Nodup) (hvalue : Entries.find? "selectors" inside = some value) :
    ∃ table, value = .object table := by
  have hmerged := find?_mergeFields hfields file base
  rw [hinside] at hmerged
  obtain ⟨entry, hentry⟩ := hread _ (Entries.mem_of_find? hmerged)
  obtain ⟨_, hobject, -, hbelow⟩ := hbase
  cases hobject
  cases hknown : Entries.find? file base with
  | none =>
    rw [hknown] at hentry
    exact object_of_readFile hentry hvalue
  | some known =>
    obtain ⟨earlier, rfl, -⟩ := hbelow known hknown
    have hselectors := find?_mergeFields hnodup "selectors" earlier
    rw [hvalue] at hselectors
    have hform : mergeWith (Entries.find? file base) (.object inside) =
        .object (mergeFields earlier inside) := by
      rw [hknown, mergeWith, mergeValue_object]
    rw [hform] at hentry
    obtain ⟨table, htable⟩ := object_of_readFile hentry hselectors
    exact exists_of_mergeWith_eq_object htable

/-! ### The setting of the rule -/

/-- What is set for a file, in the form of an object; nothing, if nothing is. -/
def Setting.entryForm (setting : Setting) (file : String) : Json :=
  ((Entries.find? file setting.files).bind fun entry => (normalEntry entry).toOption).getD .null

/-- The setting in which a selector of a file is off. To be switched off, the selector is put into
the object form of what is set for the file. -/
def Setting.switchOff (setting : Setting) (file raw : String) : Setting :=
  { setting with
    files := Entries.insert file
      (withPath (.bool false) ["selectors", raw] (setting.entryForm file)) setting.files }

/-- The form of an object is the one that the file has among the object forms. -/
theorem Setting.entryForm_eq {setting : Setting} {fields : Entries Json}
    (h : setting.files.mapM normalFile = .ok fields) (file : String) :
    setting.entryForm file = (Entries.find? file fields).getD .null := by
  unfold entryForm
  cases hform : Entries.find? file fields with
  | none =>
    rw [Entries.find?_eq_none_iff, Entries.keys_of_mapM fst_of_normalFile h,
      ← Entries.find?_eq_none_iff] at hform
    rw [hform]
    rfl
  | some form =>
    obtain ⟨entry, hentry, hread⟩ := Entries.find?_of_mapM fst_of_normalFile h hform
    obtain ⟨normal, hnormal, hresult⟩ := bind_eq_ok_iff.mp hread
    cases hresult
    rw [hentry, Option.bind_some, hnormal]
    rfl

/-- The object forms of the files differ at the end of the path of the selector. -/
theorem Setting.mapM_normalFile_switchOff {setting : Setting} {fields : Entries Json}
    (h : setting.files.mapM normalFile = .ok fields) (file raw : String) :
    ∃ others, (setting.switchOff file raw).files.mapM normalFile = .ok others ∧
      .object others = withPath (.bool false) (selectorPath file raw) (.object fields) := by
  let off := withPath (.bool false) ["selectors", raw] (setting.entryForm file)
  have hoff : normalFile (file, off) = .ok (file, off) := by
    unfold normalFile
    rw [normalEntry_withPath]
    rfl
  refine ⟨Entries.insert file off fields, Entries.mapM_insert fst_of_normalFile h hoff, ?_⟩
  simp only [off, setting.entryForm_eq h]
  rfl

/-- The files of a setting were read. -/
theorem Setting.areRead_files {setting : RuleSetting} {own : Setting}
    (h : ofRuleSetting setting = .ok own) : AreRead own.files := by
  cases setting with
  | structured value =>
    have hread : readAs (shape.read {}) value = .ok own := by
      simp only [ofRuleSetting] at h
      split at h
      · next found hfound =>
        cases h
        exact hfound
      · cases h
    have hshape : shape.Preserves fun setting => AreRead setting.files := by
      intro field hfield depth node record result hrecord hresult
      simp only [shape, List.mem_cons, List.not_mem_nil, or_false] at hfield
      rcases hfield with rfl | rfl
      · obtain ⟨reference, -, hresult⟩ := bind_eq_ok_iff.mp hresult
        cases hresult
        exact hrecord
      · obtain ⟨files, hfiles, hresult⟩ := bind_eq_ok_iff.mp hresult
        cases hresult
        exact areRead_of_asFields hfiles
    exact RecordShape.read_preserves hshape areRead_nil hread
  | _ =>
    cases h
    exact areRead_nil

/-- Whatever was read can be set. -/
theorem Setting.exists_ofRuleSetting {own : Setting} (h : AreRead own.files) :
    ∃ setting, ofRuleSetting setting = .ok own := by
  obtain ⟨reference?, files⟩ := own
  let value := Json.object [("reference-module", (reference?.map .string).getD .null),
    ("files", .object files)]
  have hrest : shape.readFields none { reference? } ["reference-module"]
      (Fields.ofJson [("files", .object files)]) = .ok ⟨reference?, files⟩ := by
    have hfield : (do return { reference?, files := ← asFields none (Node.ofJson (.object files)) } :
        Except Fault Setting) = .ok ⟨reference?, files⟩ :=
      bind_eq_ok_iff.mpr ⟨files, asFields_of_areRead h, rfl⟩
    exact bind_eq_ok_iff.mpr ⟨_, rfl, bind_eq_ok_iff.mpr ⟨_, hfield, rfl⟩⟩
  have hread : readAs (shape.read {}) value = .ok ⟨reference?, files⟩ := by
    cases reference? with
    | none => exact hrest
    | some reference => exact hrest
  refine ⟨.structured value, ?_⟩
  simp only [ofRuleSetting, hread]

/-- A selector can be switched off in any setting. -/
theorem Setting.exists_ofRuleSetting_switchOff {setting : RuleSetting} {own : Setting}
    (h : ofRuleSetting setting = .ok own) (file raw : String) :
    ∃ other, ofRuleSetting other = .ok (own.switchOff file raw) := by
  have hread := areRead_files h
  have hform : IsRead (own.entryForm file) := by
    unfold entryForm
    cases hentry : Entries.find? file own.files with
    | none => rfl
    | some entry =>
      rw [Option.bind_some]
      cases hnormal : normalEntry entry with
      | error reason => rfl
      | ok form =>
        obtain ⟨fields, rfl, hfields⟩ := exists_of_normalEntry (hread.isRead hentry) hnormal
        exact hfields.isRead_object
  have hoff : IsRead (.bool false) := rfl
  exact exists_ofRuleSetting (hread.insert file (isRead_withPath hoff _ hform))

/-- When and how a setting is brought to options. -/
theorem ofSetting_eq_ok_iff {setting : RuleSetting} {own : Setting} {options : Options}
    (hown : Setting.ofRuleSetting setting = .ok own) :
    Options.ofSetting setting = .ok options ↔ ∃ defaults normal files,
      defaultFiles.mapM normalFile = .ok defaults ∧ own.files.mapM normalFile = .ok normal ∧
      (mergeFields (mergeFields [] defaults) normal).mapM
        (fun field => readFile field.1 field.2) = .ok files ∧
      options = ⟨own.reference?, files⟩ := by
  unfold Options.ofSetting
  rw [hown]
  constructor
  · intro h
    obtain ⟨_, h', h⟩ := bind_eq_ok_iff.mp h
    cases h'
    obtain ⟨_, hfirst, h⟩ := bind_eq_ok_iff.mp h
    obtain ⟨defaults, hdefaults, rfl⟩ := normalFiles_eq_ok_iff.mp hfirst
    obtain ⟨_, hsecond, h⟩ := bind_eq_ok_iff.mp h
    obtain ⟨normal, hnormal, rfl⟩ := normalFiles_eq_ok_iff.mp hsecond
    obtain ⟨files, hfiles, h⟩ := bind_eq_ok_iff.mp h
    cases h
    exact ⟨defaults, normal, files, hdefaults, hnormal, hfiles, rfl⟩
  · rintro ⟨defaults, normal, files, hdefaults, hnormal, hfiles, rfl⟩
    refine bind_eq_ok_iff.mpr ⟨own, rfl, bind_eq_ok_iff.mpr ⟨.object defaults,
      normalFiles_eq_ok_iff.mpr ⟨defaults, hdefaults, rfl⟩, bind_eq_ok_iff.mpr ⟨.object normal,
      normalFiles_eq_ok_iff.mpr ⟨normal, hnormal, rfl⟩, ?_⟩⟩⟩
    exact bind_eq_ok_iff.mpr ⟨files, hfiles, rfl⟩

/-- A file that is read keeps its name. -/
theorem name_of_readFile {name : String} {value : Json} {entry : FileEntry}
    (h : readFile name value = .ok entry) : entry.name = name := by
  obtain ⟨setting, selectors, -, -, -, rfl⟩ := readFile_eq_ok_iff.mp h
  rfl

/-- With a selector of a file switched off, the options are the same but for the entry of this
file, which lacks the selector. No two selectors of the entry go by the same text. -/
theorem ofSetting_switchOff {setting other : RuleSetting} {own : Setting} {options : Options}
    {entry : FileEntry} {raw : String} (hown : Setting.ofRuleSetting setting = .ok own)
    (hother : Setting.ofRuleSetting other = .ok (own.switchOff entry.name raw))
    (hoptions : Options.ofSetting setting = .ok options) (hentry : entry ∈ options.files) :
    (entry.selectors.map (·.raw)).Nodup ∧
      ∃ before after, options.files = before ++ entry :: after ∧
        Options.ofSetting other = .ok ⟨options.reference?, before ++
          { entry with selectors := entry.selectors.filter fun selector => selector.raw != raw } ::
            after⟩ := by
  obtain ⟨defaults, normal, files, hdefaults, hnormal, hfiles, rfl⟩ :=
    (ofSetting_eq_ok_iff hown).mp hoptions
  have hread := Setting.areRead_files hown
  have hkeys : (Entries.keys normal).Nodup := by
    rw [Entries.keys_of_mapM fst_of_normalFile hnormal]
    exact hread.nodup
  -- The way to the selector goes through the defaults, the files of the setting, and their merge.
  have hbase : LeadsAlong (selectorPath entry.name raw) (.object (mergeFields [] defaults)) := by
    rw [← mergeValue_object]
    exact LeadsAlong.mergeValue ⟨[], rfl, List.nodup_nil, fun _ h => nomatch h⟩
      (leadsAlong_defaults hdefaults _ raw)
  have hlater : LeadsAlong (selectorPath entry.name raw) (.object normal) :=
    leadsAlong_normal hread hnormal (fun inside value hinside hnodup hvalue =>
      object_of_merge hbase hkeys (exists_mapM_iff.mp ⟨files, hfiles⟩) hinside hnodup hvalue) raw
  have hmerged := hbase.mergeValue hlater
  rw [mergeValue_object] at hmerged
  obtain ⟨_, hobject, hnodup, hbelow⟩ := hmerged
  cases hobject
  -- The entry comes from one of the merged fields.
  obtain ⟨⟨name, value⟩, hfield, hentryRead⟩ := exists_item_of_mapM hfiles hentry
  obtain rfl : entry.name = name := name_of_readFile hentryRead
  obtain ⟨inside, rfl, hinside⟩ := hbelow value (Entries.find?_of_mem hnodup hfield)
  obtain ⟨first, last, hsplit⟩ := List.append_of_mem hfield
  rw [hsplit] at hfiles hnodup
  obtain ⟨before, _, after, hbefore, hsame, hafter, rfl⟩ := mapM_append_cons_eq_ok_iff.mp hfiles
  cases hsame.symm.trans hentryRead
  refine ⟨nodup_raws_of_readFile hentryRead, before, after, rfl, ?_⟩
  obtain ⟨others, hothers, hpath⟩ := Setting.mapM_normalFile_switchOff hnormal entry.name raw
  refine (ofSetting_eq_ok_iff hother).mpr ⟨defaults, others, _, hdefaults, hothers, ?_, rfl⟩
  have hmerge : Json.object (mergeFields (mergeFields [] defaults) others) =
      withPath (.bool false) (selectorPath entry.name raw)
        (.object (mergeFields (mergeFields [] defaults) normal)) := by
    rw [← mergeValue_object, hpath, mergeValue_withPath (fun _ => rfl) hbase hlater,
      mergeValue_object]
  have hinsert : mergeFields (mergeFields [] defaults) others =
      first ++ (entry.name, withPath (.bool false) ["selectors", raw] (.object inside)) :: last := by
    have hfound := Entries.find?_of_mem (hsplit ▸ hnodup) hfield
    rw [withPath, Json.object.injEq] at hmerge
    simp only [asObject?, Option.getD_some, hfound] at hmerge
    rw [hmerge, hsplit, Entries.insert_append_cons hnodup]
  rw [hinsert]
  exact mapM_append_cons_eq_ok_iff.mpr ⟨before, _, after, hbefore,
    readFile_withPath ⟨inside, rfl, hinside⟩ hentryRead, hafter, rfl⟩

end Conventions.SameContents
