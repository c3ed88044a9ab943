import Conventions.Proofs.Except
import Conventions.Proofs.Insertion
import Conventions.Proofs.Yaml.Plain
import Conventions.Yaml.ToJson

/-!
# Entries that are kept in JSON

A mapping becomes an object, and its keys become texts. As long as no two keys of a mapping have
one text, every entry is kept in its place. Two keys that are not the same have one text only if
one of them is a text that spells the other.
-/

namespace Conventions.Yaml

/-! ### Mappings at every depth -/

section

variable (holds : List (Yaml × Yaml) → Prop)

mutual

/-- Something holds of every mapping in a value, at every depth. What is in keys does not
count. -/
def Everywhere : Yaml → Prop
  | mapping entries => holds entries ∧ EverywhereEntries entries
  | sequence items => EverywhereItems items
  | tagged _ value => Everywhere value
  | null | bool _ | number _ | string _ => True

/-- Something holds of every mapping in items. -/
def EverywhereItems : List Yaml → Prop
  | [] => True
  | item :: rest => Everywhere item ∧ EverywhereItems rest

/-- Something holds of every mapping in the values of entries. -/
def EverywhereEntries : List (Yaml × Yaml) → Prop
  | [] => True
  | (_, value) :: rest => Everywhere value ∧ EverywhereEntries rest

end

end

section

variable {holds holds' : List (Yaml × Yaml) → Prop}

mutual

/-- What holds of all mappings holds everywhere. -/
theorem everywhere_of_forall (h : ∀ entries, holds entries) :
    ∀ value : Yaml, Everywhere holds value
  | mapping entries => ⟨h entries, everywhereEntries_of_forall h entries⟩
  | sequence items => everywhereItems_of_forall h items
  | tagged _ value => everywhere_of_forall h value
  | null | bool _ | number _ | string _ => trivial

/-- What holds of all mappings holds everywhere in items. -/
theorem everywhereItems_of_forall (h : ∀ entries, holds entries) :
    ∀ items : List Yaml, EverywhereItems holds items
  | [] => trivial
  | item :: rest => ⟨everywhere_of_forall h item, everywhereItems_of_forall h rest⟩

/-- What holds of all mappings holds everywhere in entries. -/
theorem everywhereEntries_of_forall (h : ∀ entries, holds entries) :
    ∀ entries : List (Yaml × Yaml), EverywhereEntries holds entries
  | [] => trivial
  | (_, value) :: rest => ⟨everywhere_of_forall h value, everywhereEntries_of_forall h rest⟩

end

mutual

/-- What follows everywhere from something that holds everywhere. -/
theorem Everywhere.mp : ∀ value : Yaml,
    Everywhere (fun entries => holds entries → holds' entries) value →
      Everywhere holds value → Everywhere holds' value
  | mapping entries, h, h' => ⟨h.1 h'.1, EverywhereEntries.mp entries h.2 h'.2⟩
  | sequence items, h, h' => EverywhereItems.mp items h h'
  | tagged _ value, h, h' => Everywhere.mp value h h'
  | null, _, _ | bool _, _, _ | number _, _, _ | string _, _, _ => trivial

/-- What follows in items. -/
theorem EverywhereItems.mp : ∀ items : List Yaml,
    EverywhereItems (fun entries => holds entries → holds' entries) items →
      EverywhereItems holds items → EverywhereItems holds' items
  | [], _, _ => trivial
  | item :: rest, h, h' => ⟨Everywhere.mp item h.1 h'.1, EverywhereItems.mp rest h.2 h'.2⟩

/-- What follows in entries. -/
theorem EverywhereEntries.mp : ∀ entries : List (Yaml × Yaml),
    EverywhereEntries (fun entries => holds entries → holds' entries) entries →
      EverywhereEntries holds entries → EverywhereEntries holds' entries
  | [], _, _ => trivial
  | (_, value) :: rest, h, h' => ⟨Everywhere.mp value h.1 h'.1, EverywhereEntries.mp rest h.2 h'.2⟩

end

/-- What holds everywhere in entries and in the value of one more. -/
theorem everywhereEntries_append {entries : List (Yaml × Yaml)}
    (h : EverywhereEntries holds entries) {key value : Yaml} (hvalue : Everywhere holds value) :
    EverywhereEntries holds (entries ++ [(key, value)]) := by
  induction entries with
  | nil => exact ⟨hvalue, trivial⟩
  | cons entry rest ih => exact ⟨h.1, ih h.2⟩

/-- What holds everywhere in each item holds everywhere in the items. -/
theorem everywhereItems_of_forall_mem {items : List Yaml} (h : ∀ item ∈ items, Everywhere holds item) :
    EverywhereItems holds items := by
  induction items with
  | nil => trivial
  | cons item rest ih =>
    obtain ⟨hfirst, hrest⟩ := List.forall_mem_cons.mp h
    exact ⟨hfirst, ih hrest⟩

end

/-! ### What is converted at all -/

/-- Whether a value can be the key of a field. -/
def IsSimple : Yaml → Prop
  | null | bool _ | number _ | string _ => True
  | sequence _ | mapping _ | tagged .. => False

/-- Simple values have texts, and no others do. -/
theorem exists_keyText_iff {key : Yaml} : (∃ text, keyText key = .ok text) ↔ IsSimple key := by
  cases key <;> simp [keyText, IsSimple]

/-- Every key of a mapping is simple. -/
def HasSimpleKeys (entries : List (Yaml × Yaml)) : Prop := ∀ entry ∈ entries, IsSimple entry.1

section

variable {items : List Yaml} {entries : List (Yaml × Yaml)} {item key value : Yaml} {tag : String}
  {json : Json}

/-- A sequence is converted with its items. -/
theorem toJson_sequence_eq_ok_iff : toJson (sequence items) = .ok json ↔
    ∃ jsons, itemsToJson items = .ok jsons ∧ json = .array jsons := by
  rw [toJson, bind_eq_ok_iff]
  simp [pure, Except.pure, eq_comm]

/-- A mapping is converted with its entries. -/
theorem toJson_mapping_eq_ok_iff : toJson (mapping entries) = .ok json ↔
    ∃ fields, entriesToJson entries = .ok fields ∧ json = .object (Entries.ofPairs fields) := by
  rw [toJson, bind_eq_ok_iff]
  simp [pure, Except.pure, eq_comm]

/-- A value with a tag is converted with what the tag stands before. -/
theorem toJson_tagged_eq_ok_iff : toJson (tagged tag value) = .ok json ↔
    ∃ inner, toJson value = .ok inner ∧ json = .object [(tagField tag, inner)] := by
  rw [toJson, bind_eq_ok_iff]
  simp [pure, Except.pure, eq_comm]

/-- Items are converted one by one. -/
theorem itemsToJson_cons_eq_ok_iff {jsons : List Json} :
    itemsToJson (item :: items) = .ok jsons ↔ ∃ first rest,
      toJson item = .ok first ∧ itemsToJson items = .ok rest ∧ jsons = first :: rest := by
  simp only [itemsToJson, bind_eq_ok_iff]
  simp [pure, Except.pure, eq_comm]

/-- Entries are converted one by one. -/
theorem entriesToJson_cons_eq_ok_iff {fields : List (String × Json)} :
    entriesToJson ((key, value) :: entries) = .ok fields ↔ ∃ name first rest,
      keyText key = .ok name ∧ toJson value = .ok first ∧ entriesToJson entries = .ok rest ∧
        fields = (name, first) :: rest := by
  simp only [entriesToJson, bind_eq_ok_iff]
  simp [pure, Except.pure, eq_comm]

end

mutual

/-- A value is converted exactly if the keys of all mappings in it are simple. -/
theorem exists_toJson_iff : ∀ value : Yaml,
    (∃ json, toJson value = .ok json) ↔ Everywhere HasSimpleKeys value
  | mapping entries => by
    rw [Everywhere, ← exists_entriesToJson_iff entries]
    simp [toJson_mapping_eq_ok_iff]
  | sequence items => by
    rw [Everywhere, ← exists_itemsToJson_iff items]
    simp [toJson_sequence_eq_ok_iff]
  | tagged tag value => by
    rw [Everywhere, ← exists_toJson_iff value]
    simp [toJson_tagged_eq_ok_iff]
  | null | bool _ | number _ | string _ => by simp [toJson, Everywhere]

/-- Items are converted exactly if the keys of all mappings in them are simple. -/
theorem exists_itemsToJson_iff : ∀ items : List Yaml,
    (∃ jsons, itemsToJson items = .ok jsons) ↔ EverywhereItems HasSimpleKeys items
  | [] => by simp [itemsToJson, EverywhereItems]
  | item :: rest => by
    rw [EverywhereItems, ← exists_toJson_iff item, ← exists_itemsToJson_iff rest]
    simp [itemsToJson_cons_eq_ok_iff]

/-- Entries are converted exactly if their keys and those of all mappings in their values are
simple. -/
theorem exists_entriesToJson_iff : ∀ entries : List (Yaml × Yaml),
    (∃ fields, entriesToJson entries = .ok fields) ↔
      HasSimpleKeys entries ∧ EverywhereEntries HasSimpleKeys entries
  | [] => by simp [entriesToJson, EverywhereEntries, HasSimpleKeys]
  | (key, value) :: rest => by
    have hrest := exists_entriesToJson_iff rest
    rw [EverywhereEntries, HasSimpleKeys, List.forall_mem_cons, ← exists_toJson_iff value,
      ← exists_keyText_iff]
    simp only [entriesToJson_cons_eq_ok_iff]
    rw [HasSimpleKeys] at hrest
    constructor
    · rintro ⟨fields, name, first, others, hname, hfirst, hothers, -⟩
      obtain ⟨hkeys, hvalues⟩ := hrest.mp ⟨others, hothers⟩
      exact ⟨⟨⟨name, hname⟩, hkeys⟩, ⟨first, hfirst⟩, hvalues⟩
    · rintro ⟨⟨⟨name, hname⟩, hkeys⟩, ⟨first, hfirst⟩, hvalues⟩
      obtain ⟨others, hothers⟩ := hrest.mpr ⟨hkeys, hvalues⟩
      exact ⟨_, name, first, others, hname, hfirst, hothers, rfl⟩

end

/-! ### What is kept -/

mutual

/-- A JSON value with everything that a YAML value has: each item in its place, and for each entry
a field with the text of its key, in the same order. -/
inductive Mirrors : Yaml → Json → Prop
  | null : Mirrors .null .null
  | bool (value : Bool) : Mirrors (.bool value) (.bool value)
  | number (value : JsonNumber) : Mirrors (.number value) (numberJson value)
  | string (value : String) : Mirrors (.string value) (.string value)
  | sequence {items : List Yaml} {jsons : List Json} (h : MirrorsItems items jsons) :
    Mirrors (.sequence items) (.array jsons)
  | mapping {entries : List (Yaml × Yaml)} {fields : Entries Json}
    (h : MirrorsEntries entries fields) : Mirrors (.mapping entries) (.object fields)
  | tagged (tag : String) {value : Yaml} {json : Json} (h : Mirrors value json) :
    Mirrors (.tagged tag value) (.object [(tagField tag, json)])

/-- JSON values for items, one for each. -/
inductive MirrorsItems : List Yaml → List Json → Prop
  | nil : MirrorsItems [] []
  | cons {item : Yaml} {json : Json} {items : List Yaml} {jsons : List Json}
    (first : Mirrors item json) (rest : MirrorsItems items jsons) :
    MirrorsItems (item :: items) (json :: jsons)

/-- Fields for entries, one for each. -/
inductive MirrorsEntries : List (Yaml × Yaml) → Entries Json → Prop
  | nil : MirrorsEntries [] []
  | cons {key value : Yaml} {name : String} {json : Json} {entries : List (Yaml × Yaml)}
    {fields : Entries Json} (text : keyText key = .ok name) (first : Mirrors value json)
    (rest : MirrorsEntries entries fields) :
    MirrorsEntries ((key, value) :: entries) ((name, json) :: fields)

end

/-- No two keys of a mapping have one text. -/
def HasDistinctTexts (entries : List (Yaml × Yaml)) : Prop :=
  entries.Pairwise fun entry other => keyText entry.1 ≠ keyText other.1

section

variable {items : List Yaml} {entries : List (Yaml × Yaml)} {fields : Entries Json}

/-- The names of the fields for entries are the texts of their keys. -/
theorem MirrorsEntries.texts (h : MirrorsEntries entries fields) :
    entries.map (keyText ·.1) = fields.keys.map .ok := by
  induction entries generalizing fields with
  | nil =>
    cases h
    rfl
  | cons entry rest ih =>
    cases h with
    | cons hname _ hrest =>
      simp only [List.map_cons, Entries.keys, hname]
      exact congrArg _ (ih hrest)

/-- The names that are given to entries are the texts of their keys. -/
theorem texts_of_entriesToJson (h : entriesToJson entries = .ok fields) :
    entries.map (keyText ·.1) = fields.keys.map .ok := by
  induction entries generalizing fields with
  | nil =>
    cases h
    rfl
  | cons entry rest ih =>
    obtain ⟨name, first, others, hname, -, hrest, rfl⟩ := entriesToJson_cons_eq_ok_iff.mp h
    simp only [List.map_cons, Entries.keys, hname]
    exact congrArg _ (ih hrest)

/-- The texts of the keys are distinct exactly if the names are. -/
theorem hasDistinctTexts_iff (h : entries.map (keyText ·.1) = fields.keys.map .ok) :
    HasDistinctTexts entries ↔ fields.keys.Nodup := by
  rw [← List.nodup_map_iff (fun a b (heq : Except.ok a = Except.ok b) => Except.ok.inj heq)
    (α := String) (β := Except String String), ← h, List.Nodup, List.pairwise_map]
  rfl

end

mutual

/-- A value that is converted has everything in JSON exactly if in none of its mappings two keys
have one text. -/
theorem mirrors_iff_of_toJson : ∀ {value : Yaml} {json : Json}, toJson value = .ok json →
    (Mirrors value json ↔ Everywhere HasDistinctTexts value)
  | mapping entries, json, h => by
    obtain ⟨fields, hentries, rfl⟩ := toJson_mapping_eq_ok_iff.mp h
    have hnames := texts_of_entriesToJson hentries
    rw [Everywhere, ← mirrorsEntries_iff_of_entriesToJson hentries]
    constructor
    · intro hmirrors
      -- The names of an object are distinct, so nothing was put in the place of anything else.
      have hfields : MirrorsEntries entries (Entries.ofPairs fields) := by
        cases hmirrors
        assumption
      have hdistinct := (hasDistinctTexts_iff hfields.texts).mpr (Entries.nodup_keys_ofPairs fields)
      rw [Entries.ofPairs_of_nodup ((hasDistinctTexts_iff hnames).mp hdistinct)] at hfields
      exact ⟨hdistinct, hfields⟩
    · rintro ⟨hdistinct, hfields⟩
      rw [Entries.ofPairs_of_nodup ((hasDistinctTexts_iff hnames).mp hdistinct)]
      exact .mapping hfields
  | sequence items, json, h => by
    obtain ⟨jsons, hitems, rfl⟩ := toJson_sequence_eq_ok_iff.mp h
    rw [Everywhere, ← mirrorsItems_iff_of_itemsToJson hitems]
    constructor
    · rintro ⟨⟩
      assumption
    · exact .sequence
  | tagged tag value, json, h => by
    obtain ⟨inner, hvalue, rfl⟩ := toJson_tagged_eq_ok_iff.mp h
    rw [Everywhere, ← mirrors_iff_of_toJson hvalue]
    constructor
    · rintro ⟨⟩
      assumption
    · exact .tagged tag
  | null, json, h => by
    cases h
    simp [Everywhere, Mirrors.null]
  | bool value, json, h => by
    cases h
    simp [Everywhere, Mirrors.bool]
  | number value, json, h => by
    cases h
    simp [Everywhere, Mirrors.number]
  | string value, json, h => by
    cases h
    simp [Everywhere, Mirrors.string]

/-- Items that are converted have everything in JSON. -/
theorem mirrorsItems_iff_of_itemsToJson : ∀ {items : List Yaml} {jsons : List Json},
    itemsToJson items = .ok jsons →
      (MirrorsItems items jsons ↔ EverywhereItems HasDistinctTexts items)
  | [], jsons, h => by
    cases h
    simp [EverywhereItems, MirrorsItems.nil]
  | item :: rest, jsons, h => by
    obtain ⟨first, others, hfirst, hothers, rfl⟩ := itemsToJson_cons_eq_ok_iff.mp h
    rw [EverywhereItems, ← mirrors_iff_of_toJson hfirst, ← mirrorsItems_iff_of_itemsToJson hothers]
    constructor
    · rintro (_ | ⟨hfirst, hothers⟩)
      exact ⟨hfirst, hothers⟩
    · exact fun h => .cons h.1 h.2

/-- Entries that are converted have everything in JSON. -/
theorem mirrorsEntries_iff_of_entriesToJson : ∀ {entries : List (Yaml × Yaml)}
    {fields : Entries Json}, entriesToJson entries = .ok fields →
      (MirrorsEntries entries fields ↔ EverywhereEntries HasDistinctTexts entries)
  | [], fields, h => by
    cases h
    simp [EverywhereEntries, MirrorsEntries.nil]
  | (key, value) :: rest, fields, h => by
    obtain ⟨name, first, others, hname, hfirst, hothers, rfl⟩ := entriesToJson_cons_eq_ok_iff.mp h
    rw [EverywhereEntries, ← mirrors_iff_of_toJson hfirst,
      ← mirrorsEntries_iff_of_entriesToJson hothers]
    constructor
    · rintro (_ | ⟨-, hfirst, hothers⟩)
      exact ⟨hfirst, hothers⟩
    · exact fun h => .cons hname h.1 h.2

end

/-! ### Which keys have one text -/

/-- A mapping as it is read: no two keys are the same, and the numbers among them are numbers that
a value can have. -/
structure IsSound (entries : List (Yaml × Yaml)) : Prop where
  apart : entries.Pairwise fun entry other => same entry.1 other.1 = false
  stored : ∀ value, .number value ∈ entries.map (·.1) → Plain.IsStored value

/-- No key that is a text spells another key that is none. -/
def SpellsNone (entries : List (Yaml × Yaml)) : Prop :=
  ∀ text, .string text ∈ entries.map (·.1) → ∀ key ∈ entries.map (·.1), keyText key = .ok text →
    key = .string text

/-- The text of a simple key that is no text itself is read as this key. -/
theorem value?_keyText {key : Yaml} {text : String} (htext : keyText key = .ok text)
    (hstored : ∀ value, key = .number value → Plain.IsStored value)
    (hkey : ∀ value, key ≠ .string value) : Plain.value? text = some key := by
  cases key with
  | null =>
    cases htext
    rfl
  | bool value =>
    cases htext
    cases value <;> rfl
  | number value =>
    cases htext
    exact Plain.value?_numberText (hstored value rfl)
  | string value => exact absurd rfl (hkey value)
  | sequence items => cases htext
  | mapping entries => cases htext
  | tagged tag value => cases htext

/-- A simple key is the same as itself. -/
theorem same_self {key : Yaml} (h : IsSimple key) : same key key = true := by
  cases key with
  | number value => cases value <;> simp [same, sameNumber]
  | null | bool _ | string _ => simp [same]
  | sequence _ | mapping _ | tagged _ _ => cases h

/-- Two simple keys with one text are the same, unless one of them is a text that spells the
other. -/
theorem same_of_keyText_eq {key other : Yaml} {text : String} (hkey : keyText key = .ok text)
    (hother : keyText other = .ok text)
    (hstored : ∀ value, key = .number value ∨ other = .number value → Plain.IsStored value)
    (hspells : key = .string text ↔ other = .string text) : same key other = true := by
  have hsimple : IsSimple key := exists_keyText_iff.mp ⟨text, hkey⟩
  have hstring {value : String} {key : Yaml} (h : keyText key = .ok text)
      (heq : key = .string value) : key = .string text := by
    subst heq
    cases h
    rfl
  obtain rfl : key = other := by
    by_cases hquoted : key = .string text
    · rw [hquoted, hspells.mp hquoted]
    · have hread := value?_keyText hkey (fun value h => hstored value (Or.inl h))
        fun value h => hquoted (hstring hkey h)
      have hread' := value?_keyText hother (fun value h => hstored value (Or.inr h))
        fun value h => hquoted (hspells.mpr (hstring hother h))
      exact Option.some.inj (hread.symm.trans hread')
  exact same_self hsimple

/-- The keys of a mapping have different texts exactly if none that is a text spells another. -/
theorem hasDistinctTexts_iff_spellsNone {entries : List (Yaml × Yaml)} (hsound : IsSound entries)
    (hsimple : HasSimpleKeys entries) : HasDistinctTexts entries ↔ SpellsNone entries := by
  constructor
  · intro hdistinct text htext key hkey hspelled
    obtain ⟨entry, hentry, heq⟩ := List.mem_map.mp htext
    obtain ⟨other, hother, rfl⟩ := List.mem_map.mp hkey
    have hnodup : (entries.map (keyText ·.1)).Nodup := List.pairwise_map.mpr hdistinct
    have htexts : keyText entry.1 = keyText other.1 := by
      rw [heq, hspelled]
      rfl
    rw [← List.inj_on_of_nodup_map hnodup hentry hother htexts, heq]
  · intro hspells
    refine hsound.apart.imp_of_mem fun {entry other} hentry hother hdiffer hsame => ?_
    obtain ⟨text, htext⟩ := exists_keyText_iff.mpr (hsimple entry hentry)
    have htext' : keyText other.1 = .ok text := hsame.symm.trans htext
    have hkey := List.mem_map_of_mem (f := (·.1)) hentry
    have hkey' := List.mem_map_of_mem (f := (·.1)) hother
    rw [same_of_keyText_eq htext htext'] at hdiffer
    · cases hdiffer
    · rintro value (heq | heq)
      · exact hsound.stored value (heq ▸ hkey)
      · exact hsound.stored value (heq ▸ hkey')
    · constructor
      · exact fun heq => hspells text (heq ▸ hkey) other.1 hkey' htext'
      · exact fun heq => hspells text (heq ▸ hkey') entry.1 hkey htext

/-- A value is converted exactly if the keys of all its mappings are simple. It has everything in
JSON exactly if in none of its mappings two keys have one text. For a value as it is read this is so
exactly if in none of them a key that is a text spells a null, a switch or a number that is another
key. -/
theorem toJson_keeps_entries (value : Yaml) :
    ((∃ json, toJson value = .ok json) ↔ Everywhere HasSimpleKeys value) ∧
      ∀ json, toJson value = .ok json →
        (Mirrors value json ↔ Everywhere HasDistinctTexts value) ∧
        (Everywhere IsSound value → (Mirrors value json ↔ Everywhere SpellsNone value)) := by
  refine ⟨exists_toJson_iff value, fun json hjson => ?_⟩
  have hmirrors := mirrors_iff_of_toJson hjson
  have hsimple := (exists_toJson_iff value).mp ⟨json, hjson⟩
  refine ⟨hmirrors, fun hsound => hmirrors.trans ⟨fun hdistinct => ?_, fun hspells => ?_⟩⟩
  · have hall : Everywhere (fun entries => IsSound entries → HasSimpleKeys entries →
        HasDistinctTexts entries → SpellsNone entries) value :=
      everywhere_of_forall
        (fun _ hsound hsimple => (hasDistinctTexts_iff_spellsNone hsound hsimple).mp) value
    exact ((hall.mp _ hsound).mp _ hsimple).mp _ hdistinct
  · have hall : Everywhere (fun entries => IsSound entries → HasSimpleKeys entries →
        SpellsNone entries → HasDistinctTexts entries) value :=
      everywhere_of_forall
        (fun _ hsound hsimple => (hasDistinctTexts_iff_spellsNone hsound hsimple).mpr) value
    exact ((hall.mp _ hsound).mp _ hsimple).mp _ hspells

/-- A list of ports by number and by name, which is kept as it is. -/
theorem toJson_keeps_entries_ports :
    let value := sequence [mapping [(.number (.whole 80), .string "http"), (.null, .string "any"),
      (.string "ssh", .mapping [(.string "port", .number (.whole 22))])]]
    let json := Json.array [.object [("80", .string "http"), ("null", .string "any"),
      ("ssh", .object [("port", .number (.whole 22))])]]
    toJson value = .ok json ∧ Everywhere IsSound value ∧ Mirrors value json ∧
      Everywhere HasDistinctTexts value ∧ Everywhere SpellsNone value := by
  intro value json
  have hjson : toJson value = .ok json := rfl
  have hsound : Everywhere IsSound value := by
    refine ⟨⟨⟨by decide, ?_⟩, trivial, trivial, ⟨⟨by decide, ?_⟩, trivial, trivial⟩, trivial⟩, trivial⟩
    · intro value hvalue
      obtain rfl : value = .whole 80 := by simpa using hvalue
      rfl
    · intro value hvalue
      simp at hvalue
  have hmirrors : Mirrors value json :=
    .sequence (.cons (.mapping (.cons rfl (.string _) (.cons rfl (.string _) (.cons rfl
      (.mapping (.cons rfl (.number _) .nil)) .nil)))) .nil)
  obtain ⟨hdistinct, hspells⟩ := (toJson_keeps_entries value).2 json hjson
  exact ⟨hjson, hsound, hmirrors, hdistinct.mp hmirrors, (hspells hsound).mp hmirrors⟩

/-- The number `1` and the text `1` as keys of one mapping, and a single field with the value of the
second one. -/
theorem not_mirrors_spelledNumber :
    ¬ ∀ (value : Yaml) (json : Json), Everywhere IsSound value → toJson value = .ok json →
      Mirrors value json := by
  intro h
  have hmirrors := h (mapping [(.number (.whole 1), .string "a"), (.string "1", .string "b")])
    (.object [("1", .string "b")]) ⟨⟨by decide, ?_⟩, trivial, trivial, trivial⟩ rfl
  · cases hmirrors with
    | mapping hentries =>
      cases hentries with
      | cons _ _ hrest => cases hrest
  · intro value hvalue
    obtain rfl : value = .whole 1 := by simpa using hvalue
    rfl

end Conventions.Yaml
