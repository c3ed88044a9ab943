import Conventions.Proofs.Content.Documents
import Conventions.Proofs.Content.KeyScores
import Conventions.Proofs.SameContents.Selectors

/-!
# Attributes that are to blame

Where a part of a file is an object in both modules, it is judged by the mean of the scores of the
keys that the two share. If this mean is too low, so is the score of at least one key: the scores
and their mean are in hundredths alike, so a mean of scores that reach a minimum cannot be rounded
below it. Every such key has a problem of its own.
-/

namespace Conventions.SameContents

open Similarity

/-- What is found in a part of a file that is an object in both modules: a finding about all of it,
and if this is a problem, one more for each shared key whose own score is too low. -/
structure AreAttributed (minimum : Rat) (target : String) (score : String → Rat)
    (shared : List String) (total : Finding) (attributes : List Finding) : Prop where
  resource_total : total.resource = target
  valid_total_iff :
    total.valid = true ↔ minimum ≤ hundredths exact (average (shared.map score))
  attributes_of_valid : total.valid = true → attributes = []
  resources_of_invalid : total.valid = false → attributes.map (·.resource) =
    (shared.filter fun key => score key < minimum).map (target ++ "." ++ ·)
  attributes_ne_nil : total.valid = false → attributes ≠ []
  invalid_attributes : ∀ finding ∈ attributes, finding.valid = false

section

variable (reference : RepoModule) (entry : FileEntry) (target : String)

/-- A target is in order exactly if its score reaches the minimum. -/
theorem valid_judge_iff (score : Rat) :
    (judge reference entry target score).valid = true ↔ entry.minimum ≤ score := by
  simp only [judge]
  split
  · next hreaches => simpa only [Finding.of, true_iff] using hreaches
  · next hmisses => simpa only [Finding.of, Bool.false_eq_true, false_iff] using hmisses

/-- The target of a score that is too low is a problem. -/
theorem valid_judge_of_lt {entry : FileEntry} {score : Rat} (h : score < entry.minimum) :
    (judge reference entry target score).valid = false := by
  rw [← Bool.not_eq_true, valid_judge_iff]
  exact not_le.mpr h

/-- It does not matter which module the findings are about. -/
theorem AreAttributed.about {minimum : Rat} {target : String} {score : String → Rat}
    {shared : List String} {total : Finding} {attributes : List Finding}
    (h : AreAttributed minimum target score shared total attributes) (module : RepoModule) :
    AreAttributed minimum target score shared (total.about module)
      (attributes.map (Finding.about module)) where
  resource_total := h.resource_total
  valid_total_iff := h.valid_total_iff
  attributes_of_valid hvalid := by rw [h.attributes_of_valid hvalid, List.map_nil]
  resources_of_invalid hinvalid := by
    rw [List.map_map, ← h.resources_of_invalid hinvalid]
    rfl
  attributes_ne_nil hinvalid := by simpa using h.attributes_ne_nil hinvalid
  invalid_attributes := List.forall_mem_map.mpr h.invalid_attributes

/-- The scores below a minimum, that of all left out, are those of the shared keys below it. -/
theorem filter_ofValues {a b : Entries Json} {shared : List String} (ha : a.keys.Nodup)
    (hshared : ∃ key ∈ a.keys, key ∈ b.keys) (hkeys : AreShared a b shared)
    (hall : ¬ (all ∈ a.keys ∧ all ∈ b.keys)) (minimum : Rat) :
    (ofValues exact (some (.object a)) (some (.object b)) true).filter
        (fun (key, score) => key != all && score < minimum) =
      (shared.filter fun key => scoreOf exact a b key < minimum).map
        fun key => (key, scoreOf exact a b key) := by
  obtain rfl := (@areShared_keys exact a b ha).unique hkeys
  have hnew : all ∉ (sharedScores exact a b).keys := fun hmem => hall ((hkeys.mem_iff all).mp hmem)
  rw [ofValues_of_shared ha hshared, Entries.filter_insertSorted (by simp) hnew]
  conv_lhs => rw [sharedScores_eq_map ha, List.filter_map]
  refine congrArg _ (List.filter_congr fun key hkey => ?_)
  have hne : key ≠ all := by
    rintro rfl
    exact hnew hkey
  simp [hne]

/-- Two objects that share a key, but not that of the score of all, are judged by the mean of the
scores of the shared keys. If it is too low, there is a problem for each key with a score that is
too low, and there are such keys. -/
theorem areAttributed_judgeScores {a b : Entries Json} {shared : List String} (ha : a.keys.Nodup)
    (hshared : ∃ key ∈ a.keys, key ∈ b.keys) (hkeys : AreShared a b shared)
    (hall : ¬ (all ∈ a.keys ∧ all ∈ b.keys)) : ∃ total attributes,
      judgeScores reference entry target
        (ofValues exact (some (.object a)) (some (.object b)) true) = total :: attributes ∧
      AreAttributed entry.minimum target (scoreOf exact a b) shared total attributes := by
  have hmean : (ofValues exact (some (.object a)) (some (.object b)) true).find? all =
      some (hundredths exact (average (shared.map (scoreOf exact a b)))) := by
    rw [(areScores_ofValues ha hshared).find?_all, mean_exact,
      (@areShared_keys exact a b ha).unique hkeys]
  have hlow := filter_ofValues ha hshared hkeys hall entry.minimum
  have hnonempty : shared.map (scoreOf exact a b) ≠ [] := by
    obtain ⟨key, hboth⟩ := hshared
    exact List.ne_nil_of_mem (List.mem_map_of_mem ((hkeys.mem_iff key).mpr hboth))
  unfold judgeScores
  simp only [hmean, Option.getD_some, hlow, List.map_map]
  by_cases htotal : hundredths exact (average (shared.map (scoreOf exact a b))) < entry.minimum
  · have hinvalid := valid_judge_of_lt reference target htotal
    refine ⟨_, _, congrArg _ (if_pos htotal), resource_judge _ _, valid_judge_iff _ _ _ _,
      fun hvalid => ?_, fun _ => ?_, fun _ hnil => ?_, ?_⟩
    · cases hinvalid.symm.trans hvalid
    · rw [List.map_map]
      exact List.map_congr_left fun key _ => resource_judge _ _
    · -- If no key had a score that is too low, the mean of the scores would reach the minimum.
      rw [List.map_eq_nil_iff, List.filter_eq_nil_iff] at hnil
      refine absurd htotal (not_lt.mpr (le_hundredths_average hnonempty ?_ ?_))
      · exact List.forall_mem_map.mpr fun key _ => isHundredths_ofWholes _ _
      · exact List.forall_mem_map.mpr fun key hkey => by simpa using hnil key hkey
    · refine List.forall_mem_map.mpr fun key hkey => valid_judge_of_lt _ _ ?_
      simpa using (List.mem_filter.mp hkey).2
  · have hvalid := (valid_judge_iff reference entry target _).mpr (not_lt.mp htotal)
    refine ⟨_, _, congrArg _ (if_neg htotal), resource_judge _ _, valid_judge_iff _ _ _ _,
      fun _ => rfl, fun hinvalid => ?_, fun hinvalid => ?_, by simp⟩
    · cases hvalid.symm.trans hinvalid
    · cases hvalid.symm.trans hinvalid

end

section

variable {reference module : RepoModule} {entry : FileEntry}

/-- Two objects that are selected in both modules are judged by their keys. -/
theorem comparePart_of_objects {round : Rounding} {expected found : Json} {selector : Selector}
    {a b : Entries Json} (hother : reference.path.same module.path = false)
    (hexpected : selector.query.select expected = some (.object a))
    (hfound : selector.query.select found = some (.object b))
    (hshared : ∃ key ∈ a.keys, key ∈ b.keys) :
    comparePart round reference module entry expected found selector =
      judgeScores reference entry (partName module entry selector)
        (ofValues round (some (.object a)) (some (.object b)) true) := by
  obtain ⟨key, ha, hb⟩ := hshared
  have hpresent {fields : Entries Json} (hkey : key ∈ fields.keys) :
      present (some (.object fields)) = some (.object fields) := by
    have hsome : fields ≠ [] := by
      rintro rfl
      cases hkey
    simp [present, isEmptyValue, hsome]
  unfold comparePart
  rw [hexpected, hfound, hpresent ha, hpresent hb]
  cases selector.required <;> simp only [hother, Bool.false_eq_true, if_false, partName]

variable (round : Rounding) {workspace : Workspace} {selector : Selector} {expected found : Json}

/-- A part of files that can be read is compared with the part in the reference. -/
theorem partFindings_of_load (henabled : entry.enabled = true)
    (hexpected : workspace.load (reference.file entry.name) = .ok expected)
    (hfound : workspace.load (module.file entry.name) = .ok found) :
    partFindings round workspace reference module entry selector =
      (comparePart round reference module entry expected found selector).map
        (Finding.about module) := by
  have hdocuments := documents_eq_ok_iff.mpr ⟨hexpected, hfound⟩
  simp only [partFindings, henabled, if_true, compareOnly, Workspace.isFile_of_load hexpected,
    Workspace.isFile_of_load hfound, Bool.and_self, hdocuments]

/-- What is found in a part of files that can be read is among what is found in the module. -/
theorem exists_compareFiles_eq_append {options : Options} (hentry : entry ∈ options.files)
    (henabled : entry.enabled = true) (hselector : selector ∈ entry.selectors)
    (hexpected : workspace.load (reference.file entry.name) = .ok expected)
    (hfound : workspace.load (module.file entry.name) = .ok found) :
    ∃ before after, compareFiles round workspace options reference module =
      before ++ partFindings round workspace reference module entry selector ++ after := by
  obtain ⟨earlier, later, hfiles⟩ := List.append_of_mem hentry
  obtain ⟨first, last, hselectors⟩ := List.append_of_mem hselector
  have hsome : entry.selectors.isEmpty = false := by simp [hselectors]
  have hparts := compareParts_of_ok round (documents_eq_ok_iff.mpr ⟨hexpected, hfound⟩)
  have hfile : fileFindings round workspace reference module entry =
      (entry.selectors.flatMap (comparePart round reference module entry expected found)).map
        (Finding.about module) := by
    simp only [fileFindings, henabled, if_true, compareFile, Workspace.isFile_of_load hexpected,
      Workspace.isFile_of_load hfound, Bool.and_self, Bool.not_true, Bool.false_eq_true, if_false,
      hsome, hparts]
  rw [compareFiles_eq_flatMap, hfiles, List.flatMap_append, List.flatMap_cons, hfile, hselectors,
    List.flatMap_append, List.flatMap_cons, List.map_append, List.map_append,
    ← partFindings_of_load round henabled hexpected hfound]
  refine ⟨earlier.flatMap (fileFindings round workspace reference module) ++
    (first.flatMap (comparePart round reference module entry expected found)).map
      (Finding.about module),
    (last.flatMap (comparePart round reference module entry expected found)).map
      (Finding.about module) ++ later.flatMap (fileFindings round workspace reference module), ?_⟩
  simp only [List.append_assoc]

/-- Where a selected part is an object both in the reference and in another module, and the two
share a key but not that of the score of all, there is a finding about the whole part. If it is a
problem, it is followed by one problem for each shared key whose own score is below the minimum,
and there is at least one of them. -/
theorem compareFiles_attributes {options : Options} {a b : Entries Json}
    (hentry : entry ∈ options.files) (henabled : entry.enabled = true)
    (hselector : selector ∈ entry.selectors) (hother : reference.path.same module.path = false)
    (hexpected : workspace.load (reference.file entry.name) = .ok expected)
    (hfound : workspace.load (module.file entry.name) = .ok found)
    (ha : selector.query.select expected = some (.object a))
    (hb : selector.query.select found = some (.object b))
    (hshared : ∃ key ∈ a.keys, key ∈ b.keys) (hall : ¬ (all ∈ a.keys ∧ all ∈ b.keys)) :
    ∃ shared total attributes before after, AreShared a b shared ∧
      compareFiles exact workspace options reference module =
        before ++ total :: attributes ++ after ∧
      partFindings exact workspace reference module entry selector = total :: attributes ∧
      AreAttributed entry.minimum (partName module entry selector) (scoreOf exact a b) shared total
        attributes := by
  have hnodup := Workspace.nodup_keys_of_select hexpected ha
  have hkeys := @areShared_keys exact a b hnodup
  obtain ⟨total, attributes, hjudged, hattributed⟩ := areAttributed_judgeScores reference entry
    (partName module entry selector) hnodup hshared hkeys hall
  obtain ⟨before, after, hfindings⟩ :=
    exists_compareFiles_eq_append exact hentry henabled hselector hexpected hfound
  have hpart : partFindings exact workspace reference module entry selector =
      total.about module :: attributes.map (Finding.about module) := by
    rw [partFindings_of_load exact henabled hexpected hfound,
      comparePart_of_objects hother ha hb hshared, hjudged, List.map_cons]
  refine ⟨_, _, _, before, after, hkeys, ?_, hpart, hattributed.about module⟩
  rw [hfindings, hpart]

end

/-! ### Scripts of two modules -/

/-- The scripts in the file. -/
def scriptsPart : Selector := ⟨"scripts", ⟨[.key "scripts"]⟩, false⟩

/-- Two modules that build alike and lint differently. -/
def twoScripts : Workspace where
  root := .folder [
    ("a", .folder [("app.json", .file (.text
      "\x7b\"scripts\": \x7b\"build\": \"tsc\", \"lint\": \"eslint .\"\x7d\x7d"))]),
    ("b", .folder [("app.json", .file (.text
      "\x7b\"scripts\": \x7b\"lint\": \"jest\", \"build\": \"tsc\"\x7d\x7d"))])]
  current := []

/-- Whether the scripts of a file have the given names. -/
def hasScripts (names : List String) (document : Json) : Bool :=
  match scriptsPart.query.select document with
  | some (.object scripts) => decide (Entries.keys scripts = names)
  | _ => false

/-- A file with scripts has an object of them. -/
theorem exists_scripts_of_hasScripts {names : List String} {document : Json}
    (h : hasScripts names document = true) :
    ∃ scripts : Entries Json, scriptsPart.query.select document = some (.object scripts) ∧
      scripts.keys = names := by
  unfold hasScripts at h
  split at h
  · next scripts hselect => exact ⟨scripts, hselect, decide_eq_true_iff.mp h⟩
  · cases h

/-- The scripts are not similar enough, and the only one to blame is that for linting. -/
theorem compareFiles_attributes_lint : ∃ total attributes before after,
    compareFiles exact twoScripts ⟨some "a", [appEntry [scriptsPart]]⟩ (bareModule "a")
      (bareModule "b") = before ++ total :: attributes ++ after ∧
    total.resource = "b/app.json[scripts]" ∧ total.valid = false ∧ attributes ≠ [] ∧
    attributes.map (·.resource) = ["b/app.json[scripts].lint"] ∧
    ∀ finding ∈ attributes, finding.valid = false := by
  have hown : (twoScripts.load ((bareModule "a").file "app.json")).toOption.any
      (hasScripts ["build", "lint"]) = true := by decide +kernel
  have hother : (twoScripts.load ((bareModule "b").file "app.json")).toOption.any
      (hasScripts ["lint", "build"]) = true := by decide +kernel
  obtain ⟨expected, hexpected, hhas⟩ := exists_ok_of_any hown
  obtain ⟨found, hfound, hhas'⟩ := exists_ok_of_any hother
  obtain ⟨a, ha, hkeys⟩ := exists_scripts_of_hasScripts hhas
  obtain ⟨b, hb, hkeys'⟩ := exists_scripts_of_hasScripts hhas'
  have hentry : appEntry [scriptsPart] ∈
      (⟨some "a", [appEntry [scriptsPart]]⟩ : Options).files := List.mem_singleton_self _
  have hselector : scriptsPart ∈ (appEntry [scriptsPart]).selectors := List.mem_singleton_self _
  obtain ⟨shared, total, attributes, before, after, -, hfindings, hpart, hattributed⟩ :=
    compareFiles_attributes hentry rfl hselector (by decide) hexpected hfound ha hb
      (by rw [hkeys, hkeys']; decide) (by rw [hkeys, hkeys']; decide)
  have hresults : (partFindings exact twoScripts (bareModule "a") (bareModule "b")
      (appEntry [scriptsPart]) scriptsPart).map (fun finding => (finding.resource, finding.valid)) =
      [("b/app.json[scripts]", false), ("b/app.json[scripts].lint", false)] := by decide +kernel
  rw [hpart, List.map_cons, List.cons.injEq, Prod.mk.injEq] at hresults
  obtain ⟨⟨hresource, hinvalid⟩, hrest⟩ := hresults
  refine ⟨total, attributes, before, after, hfindings, hresource, hinvalid,
    hattributed.attributes_ne_nil hinvalid, ?_, hattributed.invalid_attributes⟩
  have hnames := congrArg (List.map Prod.fst) hrest
  rwa [List.map_map] at hnames

end Conventions.SameContents
