import Conventions.Proofs.Json.Field
import Conventions.Proofs.Json.Layers
import Conventions.Proofs.SameContents.Options

/-!
# Options as layers

The options of a setting can be told file by file: what the setting says about a file stands over
what is compared by default, and each selector is on unless the last word on it is that it is off.
-/

namespace Conventions.SameContents

open Json

/-- The files of a setting: those under their name in an object, or the second item of a list. -/
def settingFiles : Json → Entries Json
  | .object fields => ((Entries.find? "files" fields).bind asObject?).getD []
  | .array (_ :: files :: _) => files.asObject?.getD []
  | _ => []

/-- Whether a file is compared: unless its entry is a switch that is off, or has one. -/
def isEnabled : Option Json → Bool
  | some (.bool enabled) => enabled
  | some entry => ((entry.field? "enabled").bind asBool?).getD true
  | none => true

/-- How similar a file has to be: as much as its entry says, or fully. -/
def leastSimilarity (given? : Option Json) : Binary64 :=
  match given?.bind fun entry =>
    (entry.field? "min-similarity").or (entry.field? "minSimilarity") with
  | some (.number similarity) => similarity.toBinary64
  | _ => Binary64.ofInt 100

/-- The settings of the selectors of a file. Those of a list are on. -/
def selectorSettings (given? : Option Json) : Entries Json :=
  match given?.bind (field? "selectors") with
  | some (.object settings) => settings
  | some (.array raws) => (raws.filterMap asString?).eraseDups.map fun raw => (raw, .bool true)
  | _ => []

/-- Whether the setting of a selector switches it off. -/
def switchesOff : Json → Bool
  | .null | .bool false => true
  | .object fields => (Entries.find? "enabled" fields).bind asBool? == some false
  | _ => false

/-- Whether the setting of a selector requires its part to be there. -/
def requires (setting : Json) : Bool :=
  (setting.field? "required").bind asBool? == some true ||
    (setting.field? "strict").bind asBool? == some true

/-- What a file is, told by what is said about it by default and by a setting. -/
structure IsLayered (file : FileEntry) (default? own? : Option Json) : Prop where
  /-- The file is compared unless its own entry switches it off. -/
  enabled : file.enabled = isEnabled own?
  /-- The file has to be as similar as its own entry says, or fully. -/
  minSimilarity : file.minSimilarity = leastSimilarity own?
  inRange : 0 ≤ file.minimum ∧ file.minimum ≤ 100
  /-- The selectors by default come first, each with its own setting if it has one, and behind them
  the new ones. Those that are switched off are left out. -/
  selectors : file.selectors.map (fun selector => (selector.raw, selector.required)) =
    ((Entries.layered (selectorSettings default?) (selectorSettings own?)).filter fun setting =>
      !switchesOff setting.2).map fun setting => (setting.1, requires setting.2)
  once : (file.selectors.map (·.raw)).Nodup
  queries : ∀ selector ∈ file.selectors, Query.parse selector.raw = .ok selector.query

/-! ### Selectors -/

/-- What the setting of a selector asks for, if it is one. -/
theorem requirement_eq_ok {setting : Json} {required? : Option Bool}
    (h : requirement setting = .ok required?) :
    required? = if switchesOff setting then none else some (requires setting) := by
  have hflag : ∀ fields name, flag fields name =
      ((Entries.find? name fields).bind asBool? == some true) := fun fields name => by
    rw [flag]
    cases (Entries.find? name fields).bind asBool? with
    | none => rfl
    | some value => cases value <;> rfl
  cases setting with
  | null =>
    cases h
    rfl
  | bool value =>
    cases value <;> cases h <;> rfl
  | object fields =>
    simp only [requirement, hflag] at h
    split at h
    · next hoff =>
      cases h
      simp [switchesOff, hoff]
    · next hon =>
      cases h
      simp [switchesOff, requires, field?, hon]
  | _ => cases h

/-- When a selector is read, its setting tells whether it is on, and whether it is required. -/
theorem readSelector_eq_ok {name raw : String} {setting : Json} {selector : Option Selector}
    (h : readSelector name (raw, setting) = .ok selector) :
    selector = none ∧ switchesOff setting = true ∨
    ∃ query, selector = some ⟨raw, query, requires setting⟩ ∧ switchesOff setting = false ∧
      Query.parse raw = .ok query := by
  unfold readSelector at h
  split at h
  · next found hfound =>
    cases h
    obtain ⟨required?, hrequired, hfound⟩ := bind_eq_ok_iff.mp hfound
    obtain rfl := requirement_eq_ok hrequired
    by_cases hoff : switchesOff setting = true
    · rw [if_pos hoff] at hfound
      cases hfound
      exact Or.inl ⟨rfl, hoff⟩
    · rw [if_neg hoff] at hfound
      dsimp only at hfound
      split at hfound
      · next query hquery =>
        cases hfound
        exact Or.inr ⟨query, rfl, by simpa using hoff, mapError_eq_ok_iff.mp hquery⟩
      · cases hfound
  · cases h

/-- A selector that is read has the query of its text. -/
theorem query_of_mapM {name : String} {settings : Entries Json}
    {selectors : List (Option Selector)} (h : settings.mapM (readSelector name) = .ok selectors) :
    ∀ selector ∈ selectors.filterMap id, Query.parse selector.raw = .ok selector.query := by
  intro selector hselector
  obtain ⟨found, hfound, rfl⟩ := List.mem_filterMap.mp hselector
  obtain ⟨⟨raw, setting⟩, -, hread⟩ := exists_item_of_mapM h hfound
  rcases readSelector_eq_ok hread with ⟨hnone, -⟩ | ⟨query, hsome, -, hquery⟩
  · cases hnone
  · cases hsome
    exact hquery

/-- The selectors that are read are those that are on, in the order of their settings. -/
theorem selectors_of_mapM {name : String} {settings : Entries Json}
    {selectors : List (Option Selector)} (h : settings.mapM (readSelector name) = .ok selectors) :
    (selectors.filterMap id).map (fun selector => (selector.raw, selector.required)) =
      (settings.filter fun setting => !switchesOff setting.2).map fun setting =>
        (setting.1, requires setting.2) := by
  induction settings generalizing selectors with
  | nil =>
    cases h
    rfl
  | cons setting rest ih =>
    rw [List.mapM_cons] at h
    obtain ⟨first, hfirst, h⟩ := bind_eq_ok_iff.mp h
    obtain ⟨others, hothers, h⟩ := bind_eq_ok_iff.mp h
    cases h
    rcases readSelector_eq_ok hfirst with ⟨rfl, hoff⟩ | ⟨query, rfl, hon, -⟩
    · simpa [hoff] using ih hothers
    · simpa [hon] using ih hothers

/-! ### What is set for a file -/

/-- A switch is read of a switch only. -/
theorem eq_bool_of_asSwitch {value : Json} {enabled : Bool}
    (h : (Node.ofJson value).asSwitch = .ok enabled) : value = .bool enabled := by
  cases value with
  | bool value =>
    cases h
    rfl
  | _ => cases h

/-- A double is read of a number only. -/
theorem exists_of_asDouble {value : Json} {similarity : Binary64}
    (h : (Node.ofJson value).asDouble = .ok similarity) :
    ∃ number, value = .number number ∧ number.toBinary64 = similarity := by
  cases value with
  | number number => exact ⟨number, rfl, Except.ok.inj h⟩
  | _ => cases h

/-- What each field of a file sets. -/
theorem cases_of_read {field : RecordField FileSetting} (hfield : field ∈ fileShape.fields)
    {depth : Depth} {node : Node} {setting next : FileSetting}
    (h : field.read depth node setting = .ok next) :
    (field.name = "enabled" ∧ ∃ enabled, node.asSwitch = .ok enabled ∧
      next = { setting with enabled }) ∨
    (field.name = "min-similarity" ∧ ∃ minSimilarity, node.asDouble = .ok minSimilarity ∧
      next = { setting with minSimilarity }) ∨
    (field.name = "selectors" ∧ ∃ selectors, asFields depth node = .ok selectors ∧
      next = { setting with selectors }) := by
  simp only [fileShape, List.mem_cons, List.not_mem_nil, or_false] at hfield
  rcases hfield with rfl | rfl | rfl
  all_goals
    obtain ⟨value, hvalue, hnext⟩ := bind_eq_ok_iff.mp h
    cases hnext
  · exact Or.inl ⟨rfl, value, hvalue, rfl⟩
  · exact Or.inr (Or.inl ⟨rfl, value, hvalue, rfl⟩)
  · exact Or.inr (Or.inr ⟨rfl, value, hvalue, rfl⟩)

/-- Whether a file is compared is set by one field. -/
theorem sets_enabled : fileShape.Sets "enabled" (·.enabled) fun _ node => node.asSwitch where
  own field hfield hname _ _ _ _ h := by
    rcases cases_of_read hfield h with ⟨-, _, hread, rfl⟩ | ⟨hother, -⟩ | ⟨hother, -⟩
    · exact hread
    all_goals exact absurd (hname.symm.trans hother) (by decide)
  others field hfield hname _ _ _ _ h := by
    rcases cases_of_read hfield h with ⟨hown, -⟩ | ⟨-, _, -, rfl⟩ | ⟨-, _, -, rfl⟩
    · exact absurd hown hname
    all_goals rfl

/-- How similar a file has to be is set by one field. -/
theorem sets_minSimilarity :
    fileShape.Sets "min-similarity" (·.minSimilarity) fun _ node => node.asDouble where
  own field hfield hname _ _ _ _ h := by
    rcases cases_of_read hfield h with ⟨hother, -⟩ | ⟨-, _, hread, rfl⟩ | ⟨hother, -⟩
    · exact absurd (hname.symm.trans hother) (by decide)
    · exact hread
    · exact absurd (hname.symm.trans hother) (by decide)
  others field hfield hname _ _ _ _ h := by
    rcases cases_of_read hfield h with ⟨-, _, -, rfl⟩ | ⟨hown, -⟩ | ⟨-, _, -, rfl⟩
    · rfl
    · exact absurd hown hname
    · rfl

/-- The selectors of a file are set by one field. -/
theorem sets_selectors : fileShape.Sets "selectors" (·.selectors) asFields where
  own field hfield hname _ _ _ _ h := by
    rcases cases_of_read hfield h with ⟨hother, -⟩ | ⟨hother, -⟩ | ⟨-, _, hread, rfl⟩
    · exact absurd (hname.symm.trans hother) (by decide)
    · exact absurd (hname.symm.trans hother) (by decide)
    · exact hread
  others field hfield hname _ _ _ _ h := by
    rcases cases_of_read hfield h with ⟨-, _, -, rfl⟩ | ⟨-, _, -, rfl⟩ | ⟨hown, -⟩
    · rfl
    · rfl
    · exact absurd hown hname

/-- A key by which a field of a file goes is its name or, for one of them, another spelling. -/
theorem goesBy_fileShape {name key : String} (h : fileShape.GoesBy name key) :
    key = name ∨ name = "min-similarity" ∧ key = "minSimilarity" := by
  obtain ⟨field, hfield, rfl⟩ := h
  have hkey := List.find?_some hfield
  have hmem := RecordShape.mem_fields_of_field? hfield
  rw [Bool.or_eq_true, beq_iff_eq] at hkey
  rcases hkey with rfl | hother
  · exact Or.inl rfl
  · simp only [fileShape, List.mem_cons, List.not_mem_nil, or_false] at hmem
    rcases hmem with rfl | rfl | rfl
    · cases hother
    · exact Or.inr ⟨rfl, by simpa using hother⟩
    · cases hother

/-- A field without another spelling goes by its name. -/
theorem eq_of_goesBy {name key : String} (h : fileShape.GoesBy name key)
    (hname : name ≠ "min-similarity") : key = name := by
  rcases goesBy_fileShape h with rfl | ⟨hother, -⟩
  · rfl
  · exact absurd hother hname

/-! ### Object forms -/

/-- The table of a list of selectors has each of them once, and all of them are on. -/
theorem selectorTable_eq {selectors : List Json} {table : Json}
    (h : selectorTable selectors = .ok table) : table = .object
      ((selectors.filterMap asString?).eraseDups.map fun raw => (raw, .bool true)) := by
  obtain ⟨names, hnames, htable⟩ := bind_eq_ok_iff.mp h
  cases htable
  have hsome : names.map some = selectors.map asString? := by
    refine map_eq_of_mapM (fun {selector name} hname => ?_) hnames
    cases selector with
    | string raw =>
      cases hname
      rfl
    | _ => cases hname
  have hraws : selectors.filterMap asString? = names := by
    calc selectors.filterMap asString? = (selectors.map asString?).filterMap id := by simp
      _ = names := by
        rw [← hsome]
        simp
  rw [Entries.ofPairs_map_const, hraws]

/-- The object form of what a setting says about a file. It says the same. -/
structure IsForm (given? : Option Json) (fields : Entries Json) : Prop where
  areRead : AreRead fields
  enabled : isEnabled given? = ((Entries.find? "enabled" fields).bind asBool?).getD true
  similarity : ∀ key ∈ ["min-similarity", "minSimilarity"],
    Entries.find? key fields = given?.bind (field? key)
  settings : ∀ table, Entries.find? "selectors" fields = some (.object table) →
    selectorSettings given? = table
  noSettings : Entries.find? "selectors" fields = none → selectorSettings given? = []

/-- Nothing is said about a file. -/
theorem isForm_none : IsForm none [] where
  areRead := areRead_nil
  enabled := rfl
  similarity _ _ := rfl
  settings _ h := nomatch h
  noSettings _ := rfl

/-- What is brought to object form stays what it says. -/
theorem isForm_of_normalEntry {entry : Json} {fields : Entries Json} (hentry : IsRead entry)
    (h : normalEntry entry = .ok (.object fields)) : IsForm (some entry) fields := by
  obtain ⟨_, hform, hread⟩ := exists_of_normalEntry hentry h
  cases hform
  unfold normalEntry at h
  split at h
  · next enabled =>
    cases h
    exact ⟨hread, rfl, by simp [Entries.find?, field?], fun _ h => (nomatch h), fun _ => rfl⟩
  · next own =>
    split at h
    · next selectors hselectors =>
      obtain ⟨table, htable, h⟩ := bind_eq_ok_iff.mp h
      obtain rfl := selectorTable_eq htable
      cases h
      constructor
      · exact hread
      · simp [isEnabled, field?, Entries.find?_insert]
      · simp [field?, Entries.find?_insert]
      · intro table htable
        rw [Entries.find?_insert, if_pos rfl] at htable
        cases htable
        simp [selectorSettings, field?, hselectors]
      · intro hnone
        simp [Entries.find?_insert] at hnone
    · next hother =>
      cases h
      constructor
      · exact hread
      · rfl
      · simp [field?]
      · intro table htable
        simp [selectorSettings, field?, htable]
      · intro hnone
        simp [selectorSettings, field?, hnone]
  · cases h

/-! ### Defaults -/

/-- The fields of the object form of an entry, if there is one. -/
def HasForm (given? : Option Json) (fields : Entries Json) : Prop :=
  match given? with
  | none => fields = []
  | some entry => normalEntry entry = .ok (.object fields)

/-- By default, a file is switched on or has selectors that are on, if anything is said about it. -/
theorem form_of_default {name : String} {fields : Entries Json}
    (h : HasForm (Entries.find? name defaultFiles) fields) :
    fields = [] ∨ fields = [("enabled", .bool true)] ∨
      ∃ raws : List String,
        fields = [("selectors", .object (raws.map fun raw => (raw, .bool true)))] := by
  cases hentry : Entries.find? name defaultFiles with
  | none =>
    rw [hentry] at h
    exact Or.inl h
  | some entry =>
    rw [hentry] at h
    rcases default_entry hentry with rfl | ⟨selectors, rfl⟩
    · cases h
      exact Or.inr (Or.inl rfl)
    · obtain ⟨table, htable, hform⟩ := bind_eq_ok_iff.mp h
      obtain rfl := selectorTable_eq htable
      cases hform
      exact Or.inr (Or.inr ⟨_, rfl⟩)

/-- Each file has a form among the forms of files. -/
theorem exists_form {files forms : Entries Json} (hfiles : AreRead files)
    (h : files.mapM normalFile = .ok forms) (name : String) :
    ∃ fields, HasForm (Entries.find? name files) fields ∧
      IsForm (Entries.find? name files) fields ∧
      (Entries.find? name forms = some (.object fields) ∨
        Entries.find? name forms = none ∧ fields = []) := by
  cases hform : Entries.find? name forms with
  | none =>
    rw [Entries.find?_eq_none_iff, Entries.keys_of_mapM fst_of_normalFile h,
      ← Entries.find?_eq_none_iff] at hform
    rw [hform]
    exact ⟨[], rfl, isForm_none, Or.inr ⟨rfl, rfl⟩⟩
  | some form =>
    obtain ⟨entry, hentry, hread⟩ := Entries.find?_of_mapM fst_of_normalFile h hform
    obtain ⟨normal, hnormal, hresult⟩ := bind_eq_ok_iff.mp hread
    cases hresult
    obtain ⟨fields, rfl, -⟩ := exists_of_normalEntry (hfiles.isRead hentry) hnormal
    rw [hentry]
    exact ⟨fields, hnormal, isForm_of_normalEntry (hfiles.isRead hentry) hnormal, Or.inl rfl⟩

/-! ### Files -/

/-- A table that was read is read as itself. -/
theorem eq_of_asFields {table fields : Entries Json} (htable : AreRead table)
    (h : asFields none (Node.ofJson (.object table)) = .ok fields) : fields = table :=
  Except.ok.inj (h.symm.trans (asFields_of_areRead htable))

section

variable {default? own? : Option Json} {base own : Entries Json} {setting : FileSetting}
  (hown : IsForm own? own)
  (hread : readAs (fileShape.read {}) (.object (mergeFields base own)) = .ok setting)
include hown hread

/-- A file is compared unless its own entry switches it off. -/
theorem enabled_of_layers
    (hbase : ∀ value, Entries.find? "enabled" base = some value → value = .bool true) :
    setting.enabled = isEnabled own? := by
  have hset : fileShape.IsSet "enabled" Node.asSwitch (mergeFields base own) true setting.enabled :=
    sets_enabled.isSet (by simp) hread
  have hkey : fileShape.GoesBy "enabled" "enabled" := ⟨_, rfl, rfl⟩
  have hmerged := find?_mergeFields hown.areRead.nodup "enabled" base
  rw [hown.enabled]
  cases hvalue : Entries.find? "enabled" own with
  | some value =>
    rw [hvalue] at hmerged
    dsimp only at hmerged
    rw [mergeWith_eq_right fun value hvalue => by simp [hbase value hvalue, asArray?, asObject?]]
      at hmerged
    obtain rfl := eq_bool_of_asSwitch (hset.found hmerged hkey)
    rfl
  | none =>
    rw [hvalue] at hmerged
    dsimp only at hmerged
    cases hdefault : Entries.find? "enabled" base with
    | none =>
      refine hset.absent fun key hother => ?_
      rw [eq_of_goesBy hother (by decide), hmerged, hdefault]
    | some value =>
      rw [hdefault, hbase value hdefault] at hmerged
      exact (Json.bool.inj (eq_bool_of_asSwitch (hset.found hmerged hkey))).symm

/-- A file has to be as similar as its own entry says. -/
theorem minSimilarity_of_layers
    (hbase : ∀ key ∈ ["min-similarity", "minSimilarity"], Entries.find? key base = none) :
    setting.minSimilarity = leastSimilarity own? := by
  have hset : fileShape.IsSet "min-similarity" Node.asDouble (mergeFields base own)
      (Binary64.ofInt 100) setting.minSimilarity := sets_minSimilarity.isSet (by simp) hread
  have hmerged : ∀ key ∈ ["min-similarity", "minSimilarity"],
      Entries.find? key (mergeFields base own) = own?.bind (field? key) := by
    intro key hkey
    rw [find?_mergeFields hown.areRead.nodup, hbase key hkey, ← hown.similarity key hkey]
    cases Entries.find? key own <;> rfl
  have hproper := hmerged "min-similarity" (by simp)
  have hother := hmerged "minSimilarity" (by simp)
  have hleast : leastSimilarity own? =
      match (own?.bind (field? "min-similarity")).or (own?.bind (field? "minSimilarity")) with
      | some (.number similarity) => similarity.toBinary64
      | _ => Binary64.ofInt 100 := by
    cases own? <;> rfl
  rw [hleast]
  cases hvalue : own?.bind (field? "min-similarity") with
  | some value =>
    rw [hvalue] at hproper
    obtain ⟨number, rfl, hnumber⟩ := exists_of_asDouble (hset.found hproper ⟨_, rfl, rfl⟩)
    exact hnumber.symm
  | none =>
    rw [hvalue] at hproper
    cases hvalue' : own?.bind (field? "minSimilarity") with
    | some value =>
      rw [hvalue'] at hother
      obtain ⟨number, rfl, hnumber⟩ := exists_of_asDouble (hset.found hother ⟨_, rfl, rfl⟩)
      exact hnumber.symm
    | none =>
      rw [hvalue'] at hother
      refine hset.absent fun key hkey => ?_
      rcases goesBy_fileShape hkey with rfl | ⟨-, rfl⟩
      · exact hproper
      · exact hother

/-- The settings of the selectors are laid over those by default. -/
theorem selectors_of_layers (hdefault : IsForm default? base)
    (hbase : ∀ value, Entries.find? "selectors" base = some value →
      ∃ raws : List String, value = .object (raws.map fun raw => (raw, .bool true))) :
    setting.selectors =
      Entries.layered (selectorSettings default?) (selectorSettings own?) := by
  have hset : fileShape.IsSet "selectors" (asFields none) (mergeFields base own) []
      setting.selectors := sets_selectors.isSet (by simp) hread
  have hkey : fileShape.GoesBy "selectors" "selectors" := ⟨_, rfl, rfl⟩
  have hmerged := find?_mergeFields hown.areRead.nodup "selectors" base
  cases hearlier : Entries.find? "selectors" base with
  | none =>
    rw [hdefault.noSettings hearlier, Entries.layered_nil]
    cases hlater : Entries.find? "selectors" own with
    | none =>
      rw [hlater, hearlier] at hmerged
      rw [hown.noSettings hlater]
      refine hset.absent fun key hother => ?_
      rw [eq_of_goesBy hother (by decide), hmerged]
    | some value =>
      rw [hlater, hearlier] at hmerged
      have hfields := hset.found hmerged hkey
      obtain ⟨table, rfl⟩ := exists_of_asFields hfields
      rw [hown.settings table hlater]
      exact eq_of_asFields (hown.areRead.isRead hlater).areRead hfields
  | some base =>
    obtain ⟨raws, rfl⟩ := hbase base hearlier
    have hraws := (hdefault.areRead.isRead hearlier).areRead
    rw [hdefault.settings _ hearlier]
    cases hlater : Entries.find? "selectors" own with
    | none =>
      rw [hlater, hearlier] at hmerged
      rw [hown.noSettings hlater, Entries.layered_nil_right]
      exact eq_of_asFields hraws (hset.found hmerged hkey)
    | some value =>
      rw [hlater, hearlier] at hmerged
      have hfields := hset.found hmerged hkey
      obtain ⟨table, htable⟩ := exists_of_asFields hfields
      obtain ⟨later, rfl⟩ := exists_of_mergeWith_eq_object htable
      have hread := (hown.areRead.isRead hlater).areRead
      rw [hown.settings later hlater]
      rw [mergeWith, mergeValue_object, mergeFields_eq_layered hraws.nodup hread.nodup] at hfields
      · exact eq_of_asFields (hraws.layered hread) hfields
      · intro key plain hplain
        obtain ⟨raw, -, hraw⟩ := List.mem_map.mp (Entries.mem_of_find? hplain)
        cases hraw
        exact ⟨rfl, rfl⟩

end

/-! ### The setting of the rule -/

/-- The files of a setting are set by one field. -/
theorem sets_files : shape.Sets "files" (·.files) asFields := by
  constructor
  · intro field hfield hname depth node record result h
    simp only [shape, List.mem_cons, List.not_mem_nil, or_false] at hfield
    rcases hfield with rfl | rfl
    · exact absurd hname (by decide)
    · obtain ⟨files, hfiles, hresult⟩ := bind_eq_ok_iff.mp h
      cases hresult
      exact hfiles
  · intro field hfield hname depth node record result h
    simp only [shape, List.mem_cons, List.not_mem_nil, or_false] at hfield
    rcases hfield with rfl | rfl
    · obtain ⟨reference, -, hresult⟩ := bind_eq_ok_iff.mp h
      cases hresult
      rfl
    · exact absurd rfl hname

/-- A structured setting is read as a record. -/
theorem readAs_of_ofRuleSetting {value : Json} {own : Setting}
    (h : Setting.ofRuleSetting (.structured value) = .ok own) :
    readAs (shape.read {}) value = .ok own := by
  simp only [Setting.ofRuleSetting] at h
  split at h
  · next found hfound =>
    cases h
    exact hfound
  · cases h

/-- A list that is read as a setting has its files in the second place. -/
theorem files_of_readAs_array {items : List Json} (hitems : IsRead (.array items)) {own : Setting}
    (h : readAs (shape.read {}) (.array items) = .ok own) :
    own.files = settingFiles (.array items) := by
  obtain ⟨below, hbelow, h⟩ := bind_eq_ok_iff.mp h
  cases hbelow
  cases items with
  | nil =>
    cases h
    rfl
  | cons first rest =>
    obtain ⟨next, hnext, h⟩ := bind_eq_ok_iff.mp h
    obtain ⟨reference, -, hresult⟩ := bind_eq_ok_iff.mp hnext
    cases hresult
    cases rest with
    | nil =>
      cases h
      rfl
    | cons files more =>
      obtain ⟨last, hlast, h⟩ := bind_eq_ok_iff.mp h
      obtain ⟨table, htable, hresult⟩ := bind_eq_ok_iff.mp hlast
      cases hresult
      obtain ⟨-, -, h⟩ := bind_eq_ok_iff.mp h
      cases h
      obtain ⟨own, rfl⟩ := exists_of_asFields htable
      have hfiles : IsRead (.object own) := hitems.forall_mem _ (by simp)
      exact eq_of_asFields hfiles.areRead htable

/-- A setting that is read has its files under their name or in their place. -/
theorem files_of_readAs {value : Json} (hvalue : IsRead value) {own : Setting}
    (h : readAs (shape.read {}) value = .ok own) : own.files = settingFiles value := by
  cases value with
  | object fields =>
    have hset : shape.IsSet "files" (asFields none) fields [] own.files :=
      sets_files.isSet (by simp) h
    cases hfiles : Entries.find? "files" fields with
    | none =>
      simp only [settingFiles, hfiles, Option.bind_none, Option.getD_none]
      refine hset.absent fun key ⟨field, hfield, hname⟩ => ?_
      have hkey := List.find?_some hfield
      have hmem := RecordShape.mem_fields_of_field? hfield
      simp only [shape, List.mem_cons, List.not_mem_nil, or_false] at hmem
      rcases hmem with rfl | rfl
      · exact absurd hname (by decide)
      · obtain rfl : "files" = key := by simpa using hkey
        exact hfiles
    | some value =>
      have hread := hset.found hfiles ⟨_, rfl, rfl⟩
      obtain ⟨table, rfl⟩ := exists_of_asFields hread
      simp only [settingFiles, hfiles, Option.bind_some, asObject?, Option.getD_some]
      exact eq_of_asFields (hvalue.areRead.isRead hfiles).areRead hread
  | array items => exact files_of_readAs_array hvalue h
  | _ => cases h

/-- The files of the merge have the names of those by default, and behind them the new ones. What
is set for each is its own form laid over its form by default. -/
theorem files_of_merge {files defaults normal : Entries Json} (hfiles : AreRead files)
    (hdefaults : defaultFiles.mapM normalFile = .ok defaults)
    (hnormal : files.mapM normalFile = .ok normal) :
    (mergeFields (mergeFields [] defaults) normal).keys = Entries.keys defaultFiles ++
      files.keys.filter (· ∉ Entries.keys defaultFiles) ∧
    ∀ name value, Entries.find? name (mergeFields (mergeFields [] defaults) normal) = some value →
      ∃ base own, HasForm (Entries.find? name defaultFiles) base ∧
        IsForm (Entries.find? name defaultFiles) base ∧ IsForm (Entries.find? name files) own ∧
        value = .object (mergeFields base own) := by
  have hread : AreRead defaultFiles := IsRead.areRead rfl
  have hbaseKeys := Entries.keys_of_mapM fst_of_normalFile hdefaults
  have hownKeys := Entries.keys_of_mapM fst_of_normalFile hnormal
  have hbaseNodup : (Entries.keys defaults).Nodup := hbaseKeys ▸ hread.nodup
  have hownNodup : (Entries.keys normal).Nodup := hownKeys ▸ hfiles.nodup
  rw [mergeFields_nil hbaseNodup, keys_mergeFields_of_nodup hbaseNodup hownNodup, hbaseKeys,
    hownKeys]
  refine ⟨rfl, fun name value hvalue => ?_⟩
  obtain ⟨base, hbaseForm, hbase, hbaseFound⟩ := exists_form hread hdefaults name
  obtain ⟨own, -, hown, hownFound⟩ := exists_form hfiles hnormal name
  refine ⟨base, own, hbaseForm, hbase, hown, ?_⟩
  rw [find?_mergeFields hownNodup] at hvalue
  rcases hownFound with hownFound | ⟨hownFound, rfl⟩
  · rw [hownFound] at hvalue
    obtain rfl := Option.some.inj hvalue
    rcases hbaseFound with hbaseFound | ⟨hbaseFound, rfl⟩
    · rw [hbaseFound, mergeWith, mergeValue_object]
    · rw [hbaseFound, mergeWith, mergeFields_nil hown.areRead.nodup]
  · rw [hownFound] at hvalue
    rcases hbaseFound with hbaseFound | ⟨hbaseFound, rfl⟩
    · rw [hbaseFound] at hvalue
      obtain rfl := Option.some.inj hvalue
      rw [mergeFields]
    · rw [hbaseFound] at hvalue
      cases hvalue

/-- A file that is read of what is laid over the defaults is layered. -/
theorem isLayered_of_readFile {name : String} {own? : Option Json} {base own : Entries Json}
    {file : FileEntry} (hbase : HasForm (Entries.find? name defaultFiles) base)
    (hdefault : IsForm (Entries.find? name defaultFiles) base) (hown : IsForm own? own)
    (h : readFile name (.object (mergeFields base own)) = .ok file) :
    IsLayered file (Entries.find? name defaultFiles) own? := by
  have honce := nodup_raws_of_readFile h
  obtain ⟨setting, selectors, hsetting, hrange, hselectors, rfl⟩ := readFile_eq_ok_iff.mp h
  have hform := form_of_default hbase
  have henabled : ∀ value, Entries.find? "enabled" base = some value → value = .bool true := by
    rcases hform with rfl | rfl | ⟨raws, rfl⟩ <;> simp [Entries.find?, eq_comm]
  have hleast : ∀ key ∈ ["min-similarity", "minSimilarity"], Entries.find? key base = none := by
    rcases hform with rfl | rfl | ⟨raws, rfl⟩ <;> simp [Entries.find?]
  have hraws : ∀ value, Entries.find? "selectors" base = some value →
      ∃ raws : List String, value = .object (raws.map fun raw => (raw, .bool true)) := by
    rcases hform with rfl | rfl | ⟨raws, rfl⟩
    · simp [Entries.find?]
    · simp [Entries.find?]
    · rintro value hvalue
      cases hvalue
      exact ⟨raws, rfl⟩
  have hsettings := selectors_of_layers hown hsetting hdefault hraws
  exact {
    enabled := enabled_of_layers hown hsetting henabled
    minSimilarity := minSimilarity_of_layers hown hsetting hleast
    inRange := hrange
    selectors := hsettings ▸ selectors_of_mapM hselectors
    once := honce
    queries := query_of_mapM hselectors }

/-- The options of a structured setting are layered. The files by default come first, in their
order, and behind them the other files of the setting, in theirs. -/
theorem ofSetting_layers {value : Json} (hvalue : IsRead value) {options : Options}
    (h : Options.ofSetting (.structured value) = .ok options) :
    options.files.map (·.name) = Entries.keys defaultFiles ++
      (Entries.keys (settingFiles value)).filter (· ∉ Entries.keys defaultFiles) ∧
    ∀ file ∈ options.files, IsLayered file (Entries.find? file.name defaultFiles)
      (Entries.find? file.name (settingFiles value)) := by
  obtain ⟨own, hown, -⟩ := bind_eq_ok_iff.mp h
  have hfiles := files_of_readAs hvalue (readAs_of_ofRuleSetting hown)
  obtain ⟨defaults, normal, files, hdefaults, hnormal, hread, rfl⟩ :=
    (ofSetting_eq_ok_iff hown).mp h
  obtain ⟨hkeys, hmerged⟩ := files_of_merge (Setting.areRead_files hown) hdefaults hnormal
  rw [hfiles] at hkeys hmerged
  refine ⟨(map_eq_of_mapM name_of_readFile hread).trans hkeys, fun file hfile => ?_⟩
  obtain ⟨⟨name, layers⟩, hmem, hentry⟩ := exists_item_of_mapM hread hfile
  obtain rfl : file.name = name := name_of_readFile hentry
  have hnodup : (mergeFields (mergeFields [] defaults) normal).keys.Nodup :=
    nodup_keys_mergeFields (nodup_keys_mergeFields areRead_nil.nodup _) _
  obtain ⟨base, own, hbase, hdefault, hownForm, rfl⟩ :=
    hmerged file.name layers (Entries.find?_of_mem hnodup hmem)
  exact isLayered_of_readFile hbase hdefault hownForm hentry

/-- A setting that leaves out a file, asks for less of another one, and adds a third. -/
def mixedSetting : Json := .object [
  ("reference-module", .string "mod1"),
  ("files", .object [
    ("LICENSE", .bool false),
    ("serverless.yml", .object [
      ("min-similarity", .number (.whole 80)),
      ("selectors", .object [
        ("provider.stage", .bool true),
        ("provider.tracing", .object [("required", .bool true)]),
        ("provider.runtime", .bool false)])]),
    ("README.md", .object [("selectors", .array [.string "x", .string "x"])])])]

/-- What becomes of the defaults under this setting. -/
theorem ofSetting_layers_mixed : ∃ options,
    Options.ofSetting (.structured mixedSetting) = .ok options ∧
    options.files.map (·.name) = Entries.keys defaultFiles ++ ["README.md"] ∧
    ∀ file ∈ options.files,
      (file.name = "LICENSE" → file.enabled = false) ∧
      (file.name = "serverless.yml" → file.enabled = true ∧
        file.minSimilarity = Binary64.ofInt 80 ∧
        file.selectors.map (fun selector => (selector.raw, selector.required)) =
          [("provider.lambdaHashingVersion", false), ("provider.logRetentionInDays", false),
            ("provider.tracing", true), ("provider.stage", false)]) ∧
      (file.name = "README.md" → file.selectors.map (·.raw) = ["x"]) := by
  have haccepted : (Options.ofSetting (.structured mixedSetting)).toOption.any (fun _ => true) =
      true := by
    decide +kernel
  obtain ⟨options, hoptions, -⟩ := exists_ok_of_any haccepted
  have hread : IsRead mixedSetting := rfl
  obtain ⟨hnames, hfiles⟩ := ofSetting_layers hread hoptions
  refine ⟨options, hoptions, hnames.trans (by decide +kernel), fun file hfile => ?_⟩
  have hlayered := hfiles file hfile
  refine ⟨fun hname => ?_, fun hname => ?_, fun hname => ?_⟩
  · rw [hname] at hlayered
    exact hlayered.enabled
  · rw [hname] at hlayered
    exact ⟨hlayered.enabled, hlayered.minSimilarity, hlayered.selectors.trans (by decide +kernel)⟩
  · rw [hname] at hlayered
    have hraws := congrArg (List.map Prod.fst) hlayered.selectors
    rw [List.map_map] at hraws
    exact hraws.trans (by decide +kernel)

end Conventions.SameContents
