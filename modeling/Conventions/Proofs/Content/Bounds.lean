import Conventions.Proofs.Binary64.Error
import Conventions.Proofs.Content.FullSimilarity
import Conventions.Proofs.Entries
import Mathlib.Tactic.Linarith

/-!
# Bounds of scores

Every score is a percentage. No distance is greater than the length of the longer text, so no share
is negative, and the mean of percentages is one. This is so without any rounding, and with every
rounding that takes no number across a whole one, such as that of doubles up to `2 ^ 50`.

A division by zero would have a value here. That no score depends on one is shown by computing the
scores once more with divisions that fail where the divisor is zero.
-/

namespace Conventions.Similarity

/-- A number is a percentage. -/
def IsPercentage (score : Rat) : Prop := 0 ≤ score ∧ score ≤ 100

/-- A rounding takes no number across a whole number, up to a bound. -/
structure KeepsWholes (round : Rounding) (bound : Nat) : Prop where
  le_whole : ∀ {value : Rat} (whole : Nat), value ≤ whole → whole ≤ bound → round value ≤ whole
  whole_le : ∀ {value : Rat} (whole : Nat), whole ≤ value → value ≤ bound → whole ≤ round value

/-- Without any rounding no number is taken anywhere. -/
theorem keepsWholes_exact (bound : Nat) : KeepsWholes exact bound where
  le_whole _ h _ := h
  whole_le _ h _ := h

/-! ### Bounds for every rounding that keeps whole numbers -/

section

variable {round : Rounding} {bound : Nat}

/-- A whole number is left alone. -/
theorem KeepsWholes.round_whole (h : KeepsWholes round bound) (whole : Nat)
    (hwhole : whole ≤ bound) : round whole = whole := by
  have hcast : (whole : Rat) ≤ bound := by exact_mod_cast hwhole
  exact le_antisymm (h.le_whole whole le_rfl hwhole) (h.whole_le whole le_rfl hcast)

/-- A number between zero and a whole number stays between them. -/
theorem KeepsWholes.between (h : KeepsWholes round bound) {value : Rat} (whole : Nat)
    (hwhole : whole ≤ bound) (hvalue : 0 ≤ value ∧ value ≤ whole) :
    0 ≤ round value ∧ round value ≤ whole := by
  have hcast : (whole : Rat) ≤ bound := by exact_mod_cast hwhole
  refine ⟨?_, h.le_whole whole hvalue.2 hwhole⟩
  simpa using h.whole_le 0 (by simpa using hvalue.1) (hvalue.2.trans hcast)

/-- No share is greater than all. -/
theorem share_le_hundred (h : KeepsWholes round bound) (hbound : 100 ≤ bound)
    (length distance : Nat) : share round length distance ≤ 100 := by
  have hquotient := h.le_whole 1 (by simpa using quotient_le_one length distance) (by omega)
  have hproduct : round ((((length : Int) - (distance : Int) : Int) : Rat) / (length : Rat)) * 100 ≤
      (100 : Nat) := by
    push_cast at hquotient ⊢
    linarith
  have hshare := h.le_whole 100 hproduct hbound
  rwa [Nat.cast_ofNat] at hshare

/-- The distance of two texts is not greater than the length of the longer one. -/
theorem levenshtein_le_max (a b : String) : levenshtein a b ≤ max a.length b.length := by
  have hmax := leastEdits_le_max a.toList.reverse b.toList.reverse
  rwa [← distance_eq_leastEdits, List.length_reverse, List.length_reverse, String.length_toList,
    String.length_toList] at hmax

/-- A share is a percentage if the distance is not greater than the length. -/
theorem isPercentage_share (h : KeepsWholes round bound) (hbound : 100 ≤ bound)
    {length distance : Nat} (hdistance : distance ≤ length) :
    IsPercentage (share round length distance) := by
  refine ⟨?_, share_le_hundred h hbound length distance⟩
  have hless := quotient_le_one length distance
  have hnonneg : 0 ≤ (((length : Int) - (distance : Int) : Int) : Rat) / (length : Rat) := by
    apply div_nonneg
    · exact_mod_cast (by omega : 0 ≤ (length : Int) - (distance : Int))
    · exact Nat.cast_nonneg _
  unfold share
  generalize (((length : Int) - (distance : Int) : Int) : Rat) / (length : Rat) = quotient
    at hless hnonneg ⊢
  obtain ⟨hlow, hhigh⟩ := h.between 1 (by omega) ⟨hnonneg, by simpa using hless⟩
  have hproduct : 0 ≤ round quotient * 100 ∧ round quotient * 100 ≤ (100 : Nat) := by
    push_cast at hhigh ⊢
    constructor
    · linarith
    · linarith
  exact (h.between 100 hbound hproduct).1

/-- All of a text is a hundred percent of it. -/
theorem share_zero (h : KeepsWholes round bound) (hbound : 100 ≤ bound) {length : Nat}
    (hlength : 0 < length) : share round length 0 = 100 := by
  have hpositive : (length : Rat) ≠ 0 := by exact_mod_cast hlength.ne'
  have hone : round 1 = 1 := by exact_mod_cast h.round_whole 1 (by omega)
  have hhundred : round 100 = 100 := by exact_mod_cast h.round_whole 100 hbound
  have hquotient : (((length : Int) - ((0 : Nat) : Int) : Int) : Rat) / (length : Rat) = 1 := by
    push_cast
    rw [sub_zero, div_self hpositive]
  rw [share, hquotient, hone, one_mul, hhundred]

/-- A percentage in hundredths is one. -/
theorem isPercentage_hundredths (h : KeepsWholes round bound) (hbound : 10000 ≤ bound) {value : Rat}
    (hvalue : IsPercentage value) : IsPercentage (hundredths round value) := by
  obtain ⟨hlow, hhigh⟩ := hvalue
  have hproduct : 0 ≤ round (value * 100) ∧ round (value * 100) ≤ (10000 : Nat) := by
    apply h.between 10000 hbound
    push_cast
    constructor
    · linarith
    · linarith
  unfold hundredths
  generalize round (value * 100) = product at hproduct ⊢
  obtain ⟨hnonneg, hless⟩ := hproduct
  push_cast at hless
  have hfloor : 0 ≤ (product + mkRat 1 2).floor := by
    rw [Rat.le_floor_iff]
    norm_num [Rat.mkRat_eq_div]
    linarith
  have hfloor' : (product + mkRat 1 2).floor ≤ 10000 := by
    rw [← Int.lt_add_one_iff, Rat.floor_lt_iff]
    norm_num [Rat.mkRat_eq_div]
    linarith
  generalize (product + mkRat 1 2).floor = count at hfloor hfloor' ⊢
  have hcount : (0 : Rat) ≤ count := by exact_mod_cast hfloor
  have hcount' : (count : Rat) ≤ 10000 := by exact_mod_cast hfloor'
  have hquotient : 0 ≤ (count : Rat) / 100 ∧ (count : Rat) / 100 ≤ (100 : Nat) := by
    push_cast
    constructor
    · linarith
    · linarith
  exact_mod_cast h.between 100 (by omega) hquotient

/-- A hundred percent is a hundred percent in hundredths. -/
theorem hundredths_hundred (h : KeepsWholes round bound) (hbound : 10000 ≤ bound) :
    hundredths round 100 = 100 := by
  have hproduct : round (100 * 100) = 10000 := by
    norm_num
    exact_mod_cast h.round_whole 10000 hbound
  have hhundred : round 100 = 100 := by exact_mod_cast h.round_whole 100 (by omega)
  have hfloor : ((10000 : Rat) + mkRat 1 2).floor = 10000 := by decide +kernel
  rw [hundredths, hproduct, hfloor]
  norm_num
  exact hhundred

/-- What survives of a text is a percentage. -/
theorem isPercentage_ofTexts (h : KeepsWholes round bound) (hbound : 10000 ≤ bound)
    (reference other : String) : IsPercentage (ofTexts round reference other) := by
  unfold ofTexts
  split
  · split
    · norm_num [IsPercentage]
    · norm_num [IsPercentage]
  · apply isPercentage_hundredths h hbound
    -- The distance from a short reference can be greater than its length.
    split
    · norm_num [IsPercentage]
    · next hnonneg =>
      exact ⟨not_lt.mp hnonneg, share_le_hundred h (by omega) _ _⟩

/-- All of a text survives in itself. -/
theorem ofTexts_self (h : KeepsWholes round bound) (hbound : 10000 ≤ bound) (text : String) :
    ofTexts round text text = 100 := by
  unfold ofTexts
  by_cases hempty : text.length = 0
  · simp [hempty]
  · have hdistance : levenshtein text text = 0 := levenshtein_eq_zero_iff.mpr rfl
    have hshare := share_zero h (by omega) (Nat.pos_of_ne_zero hempty)
    simp only [if_neg hempty, hdistance, hshare]
    norm_num
    exact hundredths_hundred h hbound

/-- How similar two texts are is a percentage. -/
theorem isPercentage_ofStrings (h : KeepsWholes round bound) (hbound : 10000 ≤ bound)
    (a b : String) : IsPercentage (ofStrings round a b) := by
  unfold ofStrings
  dsimp only
  split
  · norm_num [IsPercentage]
  · exact isPercentage_hundredths h hbound
      (isPercentage_share h (by omega) (levenshtein_le_max a b))

/-- A text is a hundred percent similar to itself. -/
theorem ofStrings_self (h : KeepsWholes round bound) (hbound : 10000 ≤ bound) (text : String) :
    ofStrings round text text = 100 := by
  unfold ofStrings
  by_cases hempty : text.length = 0
  · simp [hempty]
  · have hdistance : levenshtein text text = 0 := levenshtein_eq_zero_iff.mpr rfl
    have hshare := share_zero h (by omega) (Nat.pos_of_ne_zero hempty)
    simp only [Nat.max_self, if_neg hempty, hdistance, hshare]
    exact hundredths_hundred h hbound

/-- How similar two values are as wholes is a percentage. -/
theorem isPercentage_ofWholes (h : KeepsWholes round bound) (hbound : 10000 ≤ bound)
    (a b : Option Json) : IsPercentage (ofWholes round a b) := by
  unfold ofWholes
  split
  · norm_num [IsPercentage]
  · exact isPercentage_ofStrings h hbound _ _
  · norm_num [IsPercentage]

/-- Percentages that are added one by one to a number come to a hundred for each of them at most. -/
theorem foldl_add_between (h : KeepsWholes round bound) {scores : List Rat} {sum : Rat}
    {known : Nat} (hscores : ∀ score ∈ scores, IsPercentage score)
    (hsum : 0 ≤ sum ∧ sum ≤ (100 * known : Nat)) (hbound : 100 * (known + scores.length) ≤ bound) :
    0 ≤ scores.foldl (fun sum score => round (sum + score)) sum ∧
      scores.foldl (fun sum score => round (sum + score)) sum ≤
        (100 * (known + scores.length) : Nat) := by
  induction scores generalizing sum known with
  | nil => simpa using hsum
  | cons score rest ih =>
    obtain ⟨⟨hlow, hhigh⟩, hrest⟩ := List.forall_mem_cons.mp hscores
    rw [List.length_cons] at hbound ⊢
    have hnext : 0 ≤ sum + score ∧ sum + score ≤ (100 * (known + 1) : Nat) := by
      push_cast at hsum ⊢
      constructor
      · linarith
      · linarith
    have hrounded := h.between _ (by omega) hnext
    have hall := ih hrest hrounded (by omega)
    rwa [show known + 1 + rest.length = known + (rest.length + 1) by omega] at hall

/-- The mean of percentages is a percentage. -/
theorem isPercentage_mean (h : KeepsWholes round bound) {scores : List Rat}
    (hscores : ∀ score ∈ scores, IsPercentage score) (hbound : 100 ≤ bound)
    (hcount : 100 * scores.length ≤ bound) : IsPercentage (mean round scores) := by
  obtain ⟨hlow, hhigh⟩ := @foldl_add_between _ _ h _ 0 0 hscores (by simp)
    (by simpa using hcount)
  unfold mean
  generalize scores.foldl (fun sum score => round (sum + score)) 0 = sum at hlow hhigh ⊢
  have hquotient : 0 ≤ sum / scores.length ∧ sum / scores.length ≤ (100 : Nat) := by
    refine ⟨div_nonneg hlow (Nat.cast_nonneg _), div_le_of_le_mul₀ (Nat.cast_nonneg _) ?_ ?_⟩
    · norm_num
    · push_cast at hhigh ⊢
      linarith
  exact_mod_cast h.between 100 hbound hquotient

/-- The scores of shared keys are percentages. -/
theorem isPercentage_of_mem_sharedScores (h : KeepsWholes round bound) (hbound : 10000 ≤ bound)
    {a b : Entries Json} : ∀ entry ∈ sharedScores round a b, IsPercentage entry.2 := by
  intro entry hentry
  have hpair := (Entries.mem_foldl_insertSorted hentry).resolve_right List.not_mem_nil
  obtain ⟨⟨key, value⟩, -, hscore⟩ := List.mem_filterMap.mp hpair
  obtain ⟨other, -, rfl⟩ := Option.map_eq_some_iff.mp hscore
  exact isPercentage_ofWholes h hbound _ _

/-- The scores of two values are percentages. -/
theorem isPercentage_of_mem_ofValues (h : KeepsWholes round bound) (hbound : 10000 ≤ bound)
    {a b : Option Json} {matching : Bool}
    (hcount : 100 * (ofValues round a b matching).length ≤ bound) :
    ∀ entry ∈ ofValues round a b matching, IsPercentage entry.2 := by
  have hwhole : ∀ entry ∈ wholeScores round a b, IsPercentage entry.2 :=
    List.forall_mem_singleton.mpr (isPercentage_ofWholes h hbound a b)
  unfold ofValues at hcount ⊢
  split at hcount
  · next fields others =>
    dsimp only at hcount ⊢
    split at hcount
    · next hnone => simpa only [hnone, if_true] using hwhole
    · next hsome =>
      simp only [hsome]
      intro entry hentry
      have hshared := @isPercentage_of_mem_sharedScores round bound h hbound fields others
      have hless := Entries.length_le_insertSorted all
        (hundredths round (mean round ((sharedScores round fields others).map (·.2))))
        (sharedScores round fields others)
      rcases Entries.mem_insertSorted hentry with rfl | hentry
      · refine isPercentage_hundredths h hbound (isPercentage_mean h ?_ (by omega) ?_)
        · exact List.forall_mem_map.mpr hshared
        · rw [List.length_map]
          omega
      · exact hshared entry hentry
  · exact hwhole

end

/-- The rounding of doubles keeps whole numbers. -/
theorem keepsWholes_doubles : KeepsWholes doubles (2 ^ 50) where
  le_whole _ := Binary64.nearest_le_whole
  whole_le _ h hbound := Binary64.whole_le_nearest h (by exact_mod_cast hbound)

/-! ### Checked divisions -/

/-- A quotient, if the divisor is not zero. -/
def quotient? (dividend divisor : Rat) : Option Rat :=
  if divisor = 0 then none else some (dividend / divisor)

section

variable (round : Rounding)

/-- The nearest number of hundredths, with a checked division. -/
def hundredths? (value : Rat) : Option Rat := do
  return round (← quotient? ((round (value * 100) + mkRat 1 2).floor : Int) 100)

/-- The share of a length that a distance leaves, with a checked division. -/
def share? (length distance : Nat) : Option Rat := do
  return round (round (← quotient? ((length : Int) - (distance : Int) : Int) length) * 100)

/-- How much of a reference survives in another text, with checked divisions. -/
def ofTexts? (reference other : String) : Option Rat :=
  if reference.length = 0 then some (if other.length = 0 then 100 else 0)
  else do
    let left ← share? round reference.length (levenshtein reference other)
    hundredths? round (if left < 0 then 0 else left)

/-- How similar two texts are, with checked divisions. -/
def ofStrings? (a b : String) : Option Rat :=
  let longer := max a.length b.length
  if longer = 0 then some 100
  else do hundredths? round (← share? round longer (levenshtein a b))

/-- How similar two values are as wholes, with checked divisions. -/
def ofWholes? (a b : Option Json) : Option Rat :=
  match present a, present b with
  | none, none => some 100
  | some a, some b => ofStrings? round a.compact b.compact
  | _, _ => some 0

/-- The mean of scores, with a checked division. -/
def mean? (scores : List Rat) : Option Rat := do
  return round (← quotient? (scores.foldl (fun sum score => round (sum + score)) 0) scores.length)

/-- The values that two objects have under the keys they share. -/
def sharedValues (a b : Entries Json) : List (String × Json × Json) :=
  a.filterMap fun (key, value) => (Entries.find? key b).map fun other => (key, value, other)

/-- The scores of the keys that two objects share, with checked divisions. -/
def sharedScores? (a b : Entries Json) : Option Scores := do
  let scores ← (sharedValues a b).mapM fun (key, value, other) => do
    return (key, ← ofWholes? round (some value) (some other))
  return Entries.sorted scores

/-- The score of two values as wholes, with checked divisions. -/
def wholeScores? (a b : Option Json) : Option Scores := do return [(all, ← ofWholes? round a b)]

/-- The scores of two values, with checked divisions. -/
def ofValues? (a b : Option Json) (matching : Bool) : Option Scores :=
  match matching, a, b with
  | true, some (.object fields), some (.object otherFields) => do
    let scores ← sharedScores? round fields otherFields
    if scores.isEmpty then wholeScores? round a b
    else
      let mean ← mean? round (scores.map (·.2))
      return Entries.insertSorted all (← hundredths? round mean) scores
  | _, _, _ => wholeScores? round a b

/-- A division by a number that is not zero does not fail. -/
theorem quotient?_eq_some {divisor : Rat} (h : divisor ≠ 0) (dividend : Rat) :
    quotient? dividend divisor = some (dividend / divisor) := if_neg h

/-- Hundredths are counted by a division by a hundred. -/
theorem hundredths?_eq_some (value : Rat) :
    hundredths? round value = some (hundredths round value) := by
  rw [hundredths?, quotient?_eq_some (by norm_num)]
  rfl

/-- A share of a length is a quotient by this length. -/
theorem share?_eq_some {length : Nat} (h : length ≠ 0) (distance : Nat) :
    share? round length distance = some (share round length distance) := by
  rw [share?, quotient?_eq_some (by exact_mod_cast h)]
  rfl

/-- A reference is only divided by if it is not empty. -/
theorem ofTexts?_eq_some (reference other : String) :
    ofTexts? round reference other = some (ofTexts round reference other) := by
  unfold ofTexts? ofTexts
  split
  · rfl
  · next hsome =>
    rw [share?_eq_some round hsome]
    exact hundredths?_eq_some round _

/-- The longer of two texts is only divided by if it is not empty. -/
theorem ofStrings?_eq_some (a b : String) : ofStrings? round a b = some (ofStrings round a b) := by
  unfold ofStrings? ofStrings
  dsimp only
  split
  · rfl
  · next hsome =>
    rw [share?_eq_some round hsome]
    exact hundredths?_eq_some round _

/-- Values that are compared as wholes are divided by like their texts. -/
theorem ofWholes?_eq_some (a b : Option Json) :
    ofWholes? round a b = some (ofWholes round a b) := by
  unfold ofWholes? ofWholes
  cases present a with
  | none => cases present b <;> rfl
  | some value =>
    cases present b with
    | none => rfl
    | some other => exact ofStrings?_eq_some round value.compact other.compact

/-- A number of scores is only divided by if there are any. -/
theorem mean?_eq_some {scores : List Rat} (h : scores ≠ []) :
    mean? round scores = some (mean round scores) := by
  have hlength : (scores.length : Rat) ≠ 0 := by
    exact_mod_cast (List.length_pos_iff.mpr h).ne'
  rw [mean?, quotient?_eq_some hlength]
  rfl

/-- Shared keys are scored without a division by zero. -/
theorem sharedScores?_eq_some (a b : Entries Json) :
    sharedScores? round a b = some (sharedScores round a b) := by
  unfold sharedScores? sharedScores
  have hscores : (sharedValues a b).mapM (fun (key, value, other) => do
      return (key, ← ofWholes? round (some value) (some other))) =
      some (a.filterMap fun (key, value) => (Entries.find? key b).map fun other =>
        (key, ofWholes round (some value) (some other))) := by
    simp only [ofWholes?_eq_some]
    refine List.mapM_pure.trans (congrArg some ?_)
    rw [sharedValues, List.map_filterMap]
    simp only [Option.map_map]
    rfl
  rw [hscores]
  rfl

/-- Values are scored without a division by zero. -/
theorem ofValues?_eq_some (a b : Option Json) (matching : Bool) :
    ofValues? round a b matching = some (ofValues round a b matching) := by
  have hwhole : wholeScores? round a b = some (wholeScores round a b) := by
    rw [wholeScores?, ofWholes?_eq_some]
    rfl
  by_cases hobjects : ∃ fields others, matching = true ∧ a = some (.object fields) ∧
      b = some (.object others)
  · obtain ⟨fields, others, rfl, rfl, rfl⟩ := hobjects
    simp only [ofValues?, ofValues, sharedScores?_eq_some]
    by_cases hnone : sharedScores round fields others = []
    · simpa [hnone] using hwhole
    · have hsome : (sharedScores round fields others).map (·.2) ≠ [] := by simpa using hnone
      simp [hnone, mean?_eq_some round hsome, hundredths?_eq_some]
  · have hchecked : ofValues? round a b matching = wholeScores? round a b := by
      unfold ofValues?
      split
      · exact absurd ⟨_, _, rfl, rfl, rfl⟩ hobjects
      · rfl
    have hplain : ofValues round a b matching = wholeScores round a b := by
      unfold ofValues
      split
      · exact absurd ⟨_, _, rfl, rfl, rfl⟩ hobjects
      · rfl
    rw [hchecked, hplain, hwhole]

end

/-- In doubles all scores are percentages too, as long as two values have no more than `2 ^ 43`
scores. -/
theorem isPercentage_doubles (a b : String) (value other : Option Json) (matching : Bool) :
    IsPercentage (ofTexts doubles a b) ∧ IsPercentage (ofStrings doubles a b) ∧
      ((ofValues doubles value other matching).length ≤ 2 ^ 43 →
        ∀ entry ∈ ofValues doubles value other matching, IsPercentage entry.2) :=
  ⟨isPercentage_ofTexts keepsWholes_doubles (by decide) a b,
    isPercentage_ofStrings keepsWholes_doubles (by decide) a b,
    fun hcount => isPercentage_of_mem_ofValues keepsWholes_doubles (by decide) (by omega)⟩

/-- What survives of a text and how similar two texts are is a percentage, and it is a hundred if
the texts are equal. So is every score of two values, that of all included. None of these scores
comes from a division by zero, whatever the rounding. -/
theorem scores_are_percentages :
    (∀ a b : String, IsPercentage (ofTexts exact a b) ∧ IsPercentage (ofStrings exact a b) ∧
      ofTexts exact a a = 100 ∧ ofStrings exact a a = 100) ∧
    (∀ (a b : Option Json) (matching : Bool),
      ∀ entry ∈ ofValues exact a b matching, IsPercentage entry.2) ∧
    ∀ round, (∀ a b : String, ofTexts? round a b = some (ofTexts round a b) ∧
        ofStrings? round a b = some (ofStrings round a b)) ∧
      ∀ (a b : Option Json) (matching : Bool),
        ofValues? round a b matching = some (ofValues round a b matching) := by
  refine ⟨fun a b => ?_, fun a b matching => ?_, fun round => ⟨fun a b => ?_, ?_⟩⟩
  · have hexact := keepsWholes_exact 10000
    exact ⟨isPercentage_ofTexts hexact le_rfl a b, isPercentage_ofStrings hexact le_rfl a b,
      ofTexts_self hexact le_rfl a, ofStrings_self hexact le_rfl a⟩
  · -- Without rounding every bound will do, whatever the number of scores.
    exact isPercentage_of_mem_ofValues (keepsWholes_exact _) (Nat.le_add_right 10000 _)
      (Nat.le_add_left _ 10000)
  · exact ⟨ofTexts?_eq_some round a b, ofStrings?_eq_some round a b⟩
  · exact ofValues?_eq_some round

/-- The script that two packages share. -/
theorem percentage_of_sharedScript :
    let a : Entries Json := [("build", .string "tsc"), ("lint", .string "eslint .")]
    let b : Entries Json := [("lint", .string "eslint src"), ("test", .string "jest")]
    ("lint", 75) ∈ ofValues exact (some (.object a)) (some (.object b)) true ∧
      IsPercentage 75 := by
  intro a b
  have hscore : ("lint", 75) ∈ ofValues exact (some (.object a)) (some (.object b)) true := by
    decide +kernel
  exact ⟨hscore, scores_are_percentages.2.1 _ _ _ _ hscore⟩

end Conventions.Similarity
