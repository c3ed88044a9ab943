import Conventions.Proofs.Content.KeyScores

/-!
# Values in either order

Two values have the same scores in either order. The distance of two texts is the same both ways,
and the keys that two objects share are scored in ascending order, not in that of either object. A
value that is empty is compared like one that is absent: an empty object shares no key with another
one, so the two are compared as wholes.
-/

namespace Conventions.Similarity

variable (round : Rounding)

/-! ### Either order -/

/-- The distance of two texts is the same both ways. -/
theorem levenshtein_comm (a b : String) : levenshtein a b = levenshtein b a := by
  have hthere := isLeast_distance a.toList b.toList
  have hback := isLeast_distance b.toList a.toList
  apply Nat.le_antisymm
  · exact hthere.2 hback.1.symm
  · exact hback.2 hthere.1.symm

/-- Two texts are as similar in either order. -/
theorem ofStrings_comm (a b : String) : ofStrings round a b = ofStrings round b a := by
  unfold ofStrings
  rw [levenshtein_comm, Nat.max_comm]

/-- Two values are as similar as wholes in either order. -/
theorem ofWholes_comm (a b : Option Json) : ofWholes round a b = ofWholes round b a := by
  unfold ofWholes
  cases present a with
  | none => cases present b <;> rfl
  | some value =>
    cases present b with
    | none => rfl
    | some other => exact ofStrings_comm round value.compact other.compact

/-- The scores of two objects are the same in either order. What is found under a key depends on
both objects alike, and ascending entries are told apart by what is found in them. -/
theorem sharedScores_comm {a b : Entries Json} (ha : a.keys.Nodup) (hb : b.keys.Nodup) :
    sharedScores round a b = sharedScores round b a := by
  have hthere : (sharedScores round a b).Ascending := Entries.ascending_sorted _
  have hback : (sharedScores round b a).Ascending := Entries.ascending_sorted _
  refine hthere.ext hback fun key => ?_
  rw [find?_sharedScores ha, find?_sharedScores hb, scoreOf, ofWholes_comm, ← scoreOf]
  exact if_congr and_comm rfl rfl

/-- An object has each of its keys once. -/
def HasDistinctKeys (value : Option Json) : Prop :=
  ∀ fields : Entries Json, value = some (.object fields) → fields.keys.Nodup

/-- An object of which the keys are all different. -/
theorem hasDistinctKeys_object {fields : Entries Json} (h : fields.keys.Nodup) :
    HasDistinctKeys (some (.object fields)) := by
  rintro others ⟨⟩
  exact h

/-- Two values have the same scores in either order. -/
theorem ofValues_comm {a b : Option Json} (matching : Bool) (ha : HasDistinctKeys a)
    (hb : HasDistinctKeys b) : ofValues round a b matching = ofValues round b a matching := by
  have hwhole : wholeScores round a b = wholeScores round b a := by
    rw [wholeScores, wholeScores, ofWholes_comm]
  unfold ofValues
  split
  · next fields others =>
    simp only [sharedScores_comm round (ha fields rfl) (hb others rfl), hwhole]
  · next hnot =>
    split
    · next fields others => exact absurd rfl (hnot others fields rfl rfl)
    · exact hwhole

/-! ### Empty and absent values -/

/-- An empty object shares no key. -/
theorem sharedScores_nil_right (fields : Entries Json) : sharedScores round fields [] = [] := by
  have hnone : (fields.filterMap fun entry =>
      (Entries.find? entry.1 ([] : Entries Json)).map fun other =>
        (entry.1, ofWholes round (some entry.2) (some other))) = [] :=
    List.filterMap_eq_nil_iff.mpr fun _ _ => rfl
  exact congrArg Entries.sorted hnone

/-- Values are compared as wholes if one of them is empty or absent. -/
theorem ofValues_of_present_eq_none {a b : Option Json} (matching : Bool)
    (h : present a = none ∨ present b = none) :
    ofValues round a b matching = wholeScores round a b := by
  unfold ofValues
  split
  · next fields others =>
    have hnone : sharedScores round fields others = [] := by
      rcases h with h | h
      · have hempty : fields = [] := by simpa [present, isEmptyValue] using h
        rw [hempty]
        rfl
      · have hempty : others = [] := by simpa [present, isEmptyValue] using h
        rw [hempty, sharedScores_nil_right]
    simp [hnone]
  · rfl

/-- A value that is present is the value itself. -/
theorem present_eq_none_or_eq (value : Option Json) :
    present value = none ∨ present value = value := by
  cases value with
  | none => exact Or.inl rfl
  | some value =>
    by_cases h : isEmptyValue value = true
    · exact Or.inl (by simp [present, h])
    · exact Or.inr (by simp [present, h])

/-- Values have the same scores whether they are empty or absent. -/
theorem ofValues_present (a b : Option Json) (matching : Bool) :
    ofValues round (present a) (present b) matching = ofValues round a b matching := by
  have htwice (value : Option Json) : present (present value) = present value := by
    rcases present_eq_none_or_eq value with h | h
    · rw [h]
      rfl
    · rw [h, h]
  by_cases h : present a = none ∨ present b = none
  · have h' : present (present a) = none ∨ present (present b) = none := by
      rwa [htwice a, htwice b]
    rw [ofValues_of_present_eq_none round matching h, ofValues_of_present_eq_none round matching h']
    simp only [wholeScores, ofWholes, htwice]
  · obtain ⟨ha, hb⟩ := not_or.mp h
    rw [(present_eq_none_or_eq a).resolve_left ha, (present_eq_none_or_eq b).resolve_left hb]

/-- Two values have the same scores in either order, provided that an object has each of its keys
once, and an empty value has the same scores as an absent one on either side. -/
theorem ofValues_symmetric_and_emptyAsAbsent (a b : Option Json) (matching : Bool) :
    (HasDistinctKeys a → HasDistinctKeys b →
      ofValues round a b matching = ofValues round b a matching) ∧
    ∀ empty ∈ [Json.null, .string "", .object [], .array []],
      ofValues round (some empty) b matching = ofValues round none b matching ∧
      ofValues round a (some empty) matching = ofValues round a none matching := by
  refine ⟨ofValues_comm round matching, fun empty hempty => ?_⟩
  have hnone : present (some empty) = none := by
    simp only [List.mem_cons, List.not_mem_nil, or_false] at hempty
    rcases hempty with rfl | rfl | rfl | rfl <;> rfl
  constructor
  · rw [← ofValues_present, hnone, ← ofValues_present round none b]
    rfl
  · rw [← ofValues_present, hnone, ← ofValues_present round a none]
    rfl

/-- The scripts of two packages have the same scores in either order, and none and no scripts at
all have the same scores against them. -/
theorem ofValues_symmetric_scripts :
    let a : Entries Json := [("build", .string "tsc"), ("lint", .string "eslint .")]
    let b : Entries Json := [("lint", .string "eslint src"), ("test", .string "jest")]
    a.keys.Nodup ∧ b.keys.Nodup ∧ Json.object [] ∈ [Json.null, .string "", .object [], .array []] ∧
      ofValues doubles (some (.object a)) (some (.object b)) true =
        ofValues doubles (some (.object b)) (some (.object a)) true ∧
      ofValues doubles (some (.object [])) (some (.object b)) true =
        ofValues doubles none (some (.object b)) true := by
  intro a b
  have ha : a.keys.Nodup := by decide
  have hb : b.keys.Nodup := by decide
  have hempty : Json.object [] ∈ [Json.null, .string "", .object [], .array []] := by simp
  obtain ⟨hsymmetric, habsent⟩ := ofValues_symmetric_and_emptyAsAbsent doubles
    (some (.object a)) (some (.object b)) true
  exact ⟨ha, hb, hempty, hsymmetric (hasDistinctKeys_object ha) (hasDistinctKeys_object hb),
    (habsent _ hempty).1⟩

end Conventions.Similarity
