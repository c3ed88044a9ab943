import Conventions.Content.Load
import Conventions.Proofs.Json.Tables
import Conventions.Proofs.Makefile.Targets
import Conventions.Proofs.Workspace.Writing
import Conventions.Proofs.Yaml.ToJson

/-!
# Documents that were loaded

Whatever format a file has, the document that is loaded from it reads back as itself, and so does
every part of it. In particular each of its objects has its keys once.
-/

namespace Conventions

open Json

/-! ### The formats -/

/-- The value of a JSON text was read. -/
theorem Json.isRead_of_parse {text : String} {value : Json} (h : Json.parse text = .ok value) :
    IsRead value := by
  obtain ⟨root, hroot, h⟩ := bind_eq_ok_iff.mp h
  split at h
  · cases h
    exact isRead_of_value _ hroot
  · cases h

namespace Yaml

mutual

/-- The value that stands for a YAML value reads back as itself. -/
theorem isRead_of_toJson : ∀ {value : Yaml} {json : Json}, toJson value = .ok json → IsRead json
  | null, _, h | bool _, _, h | string _, _, h => by
    cases h
    rfl
  | number value, _, h => by
    cases h
    unfold numberJson
    split
    · rfl
    · split <;> rfl
  | sequence items, _, h => by
    obtain ⟨jsons, hjsons, rfl⟩ := toJson_sequence_eq_ok_iff.mp h
    exact isRead_array (isRead_of_itemsToJson hjsons)
  | mapping entries, _, h => by
    obtain ⟨fields, hfields, rfl⟩ := toJson_mapping_eq_ok_iff.mp h
    exact (areRead_ofPairs (isRead_of_entriesToJson hfields)).isRead_object
  | tagged tag value, _, h => by
    obtain ⟨inner, hinner, rfl⟩ := toJson_tagged_eq_ok_iff.mp h
    exact (areRead_nil.insert (tagField tag) (isRead_of_toJson hinner)).isRead_object

/-- The values that stand for items read back as themselves. -/
theorem isRead_of_itemsToJson : ∀ {items : List Yaml} {jsons : List Json},
    itemsToJson items = .ok jsons → ∀ json ∈ jsons, IsRead json
  | [], _, h => by
    cases h
    simp
  | item :: items, _, h => by
    obtain ⟨first, rest, hfirst, hrest, rfl⟩ := itemsToJson_cons_eq_ok_iff.mp h
    rw [List.forall_mem_cons]
    exact ⟨isRead_of_toJson hfirst, isRead_of_itemsToJson hrest⟩

/-- The values that stand for those of entries read back as themselves. -/
theorem isRead_of_entriesToJson : ∀ {entries : List (Yaml × Yaml)} {fields : List (String × Json)},
    entriesToJson entries = .ok fields → ∀ field ∈ fields, IsRead field.2
  | [], _, h => by
    cases h
    simp
  | (key, value) :: entries, _, h => by
    obtain ⟨name, first, rest, -, hfirst, hrest, rfl⟩ := entriesToJson_cons_eq_ok_iff.mp h
    rw [List.forall_mem_cons]
    exact ⟨isRead_of_toJson hfirst, isRead_of_entriesToJson hrest⟩

end

end Yaml

/-- The object for a Makefile reads back as itself: its keys are the names of the targets, each of
them once. -/
theorem Makefile.isRead_parse (text : String) : IsRead (Makefile.parse text) := by
  obtain ⟨lines, hlines⟩ : ∃ lines : List Line, Makefile.targets text.toList =
      table (mentioned lines).eraseDups (described lines) := ⟨_, targets_eq text.toList⟩
  have hkeys : Entries.keys ((targets text.toList).map fun target =>
      (String.ofList target.1, target.2.toJson)) =
        (mentioned lines).eraseDups.map String.ofList := by
    rw [hlines, table, Entries.keys, List.map_map, List.map_map]
    rfl
  have hnodup : ((mentioned lines).eraseDups.map String.ofList).Nodup :=
    (nodup_eraseDups _).map fun _ _ => String.ofList_injective
  rw [← hkeys] at hnodup
  refine AreRead.isRead_object ⟨hnodup, fun hfound => ?_⟩
  obtain ⟨⟨name, target⟩, -, heq⟩ := List.mem_map.mp (Entries.mem_of_find? hfound)
  cases heq
  rfl

/-! ### Files and their parts -/

/-- The value of a text in any format reads back as itself. -/
theorem ContentFormat.isRead_of_value {format : ContentFormat} {text : String} {value : Json}
    (h : format.value text = .ok value) : IsRead value := by
  cases format with
  | json => exact Json.isRead_of_parse (mapError_eq_ok_iff.mp h)
  | yaml =>
    obtain ⟨yaml, -, hjson⟩ := bind_eq_ok_iff.mp h
    exact Yaml.isRead_of_toJson hjson
  | makefile =>
    cases h
    exact Makefile.isRead_parse text

/-- A document that is loaded reads back as itself. -/
theorem Workspace.isRead_of_load {workspace : Workspace} {path : RepoPath} {document : Json}
    (h : workspace.load path = .ok document) : IsRead document := by
  unfold load at h
  split at h
  · cases h
  · next format _ =>
    obtain ⟨text, -, h⟩ := bind_eq_ok_iff.mp h
    exact ContentFormat.isRead_of_value (mapError_eq_ok_iff.mp h)

/-- A file that can be loaded is there. -/
theorem Workspace.isFile_of_load {workspace : Workspace} {path : RepoPath} {document : Json}
    (h : workspace.load path = .ok document) : workspace.isFile path = true := by
  unfold load at h
  split at h
  · cases h
  · obtain ⟨text, hread, -⟩ := bind_eq_ok_iff.mp h
    exact isFile_of_read (mapError_eq_ok_iff.mp hread)

/-- A part of a document reads back as itself if the document does. -/
theorem Query.isRead_of_selectSteps {steps : List Step} {document part : Json}
    (h : IsRead document) (hpart : selectSteps steps document = some part) : IsRead part := by
  fun_induction selectSteps steps document with
  | case1 value =>
    cases hpart
    exact h
  | case2 name rest fields ih =>
    obtain ⟨value, hvalue, hpart⟩ := Option.bind_eq_some_iff.mp hpart
    exact ih value (h.areRead.isRead hvalue) hpart
  | case3 position rest items ih =>
    obtain ⟨value, hvalue, hpart⟩ := Option.bind_eq_some_iff.mp hpart
    exact ih value (h.forall_mem value (List.mem_of_getElem? hvalue)) hpart
  | case4 => cases hpart

/-- An object in a document that was loaded has its keys once. -/
theorem Workspace.nodup_keys_of_select {workspace : Workspace} {path : RepoPath} {document : Json}
    {query : Query} {fields : Entries Json} (h : workspace.load path = .ok document)
    (hpart : query.select document = some (.object fields)) : fields.keys.Nodup :=
  (Query.isRead_of_selectSteps (isRead_of_load h) hpart).areRead.nodup

end Conventions
