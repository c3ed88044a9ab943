import Conventions.Proofs.Content.Bounds
import Conventions.Proofs.Insertion

/-!
# Scores by key

Two objects that share a key are scored by the keys they share. The score of each key is that of
its two values as wholes, and the score of all is the mean of these. It stands under a key of its
own, so where the objects share a key of that name, its score counts in the mean but is not found.
-/

namespace Conventions.Similarity

open Binary64

/-! ### What the scores are -/

section

variable (round : Rounding) (a b : Entries Json)

/-- The score of a key: how similar its two values are as wholes. -/
def scoreOf (key : String) : Rat := ofWholes round (a.find? key) (b.find? key)

/-- The keys that two objects share, in ascending order. -/
structure AreShared (shared : List String) : Prop where
  ascending : shared.Pairwise fun key other => textBefore key other = true
  mem_iff : ∀ key, key ∈ shared ↔ key ∈ a.keys ∧ key ∈ b.keys

/-- The scores by the given keys, and under the key of all the mean of the scores of these keys,
in hundredths. A key of that name has no entry of its own. -/
structure AreScores (shared : List String) (scores : Scores) : Prop where
  ascending : scores.Ascending
  mem_keys_iff : ∀ key, key ∈ scores.keys ↔ key = all ∨ key ∈ shared
  find?_of_mem : ∀ key ∈ shared, key ≠ all → scores.find? key = some (scoreOf round a b key)
  find?_all : scores.find? all =
    some (hundredths round (mean round (shared.map (scoreOf round a b))))

end

section

variable {round : Rounding} {a b : Entries Json}

/-- The score of a key is found under it if both objects have the key. -/
theorem find?_sharedScores (ha : a.keys.Nodup) (key : String) :
    (sharedScores round a b).find? key =
      if key ∈ a.keys ∧ key ∈ b.keys then some (scoreOf round a b key) else none := by
  have hpairs := Entries.find?_filterMap_of_nodup (fun key value =>
    (Entries.find? key b).map fun other => ofWholes round (some value) (some other)) ha key
  have hnodup := Entries.nodup_keys_filterMap (fun key value =>
    (Entries.find? key b).map fun other => ofWholes round (some value) (some other)) ha
  simp only [Option.map_map] at hpairs hnodup
  have hshared : sharedScores round a b = Entries.sorted (a.filterMap fun entry =>
      (Entries.find? entry.1 b).map
        ((entry.1, ·) ∘ fun other => ofWholes round (some entry.2) (some other))) := rfl
  rw [hshared, Entries.find?_sorted hnodup, hpairs]
  simp only [Entries.mem_keys_iff_isSome, scoreOf]
  cases a.find? key with
  | none => simp
  | some value =>
    cases b.find? key with
    | none => simp
    | some other => simp

/-- The keys with scores are those that both objects have. -/
theorem areShared_keys (ha : a.keys.Nodup) : AreShared a b (sharedScores round a b).keys where
  ascending := List.pairwise_map.mpr (Entries.ascending_sorted _)
  mem_iff key := by
    rw [Entries.mem_keys_iff_isSome, find?_sharedScores ha]
    split <;> simp [*]

/-- The scores are those of the shared keys, in their order. -/
theorem sharedScores_eq_map (ha : a.keys.Nodup) : sharedScores round a b =
    (sharedScores round a b).keys.map fun key => (key, scoreOf round a b key) := by
  have hnodup : (sharedScores round a b).keys.Nodup := (Entries.ascending_sorted _).nodup_keys
  unfold Entries.keys
  rw [List.map_map, List.map_congr_left, List.map_id]
  rintro ⟨key, score⟩ hentry
  have hfound := Entries.find?_of_mem hnodup hentry
  rw [find?_sharedScores ha] at hfound
  split at hfound
  · cases hfound
    rfl
  · cases hfound

/-- Two objects with a shared key are scored by the keys they share, and the mean of these scores
is entered under the key of all. -/
theorem ofValues_of_shared (ha : a.keys.Nodup) (hshared : ∃ key ∈ a.keys, key ∈ b.keys) :
    ofValues round (some (.object a)) (some (.object b)) true =
      Entries.insertSorted all
        (hundredths round (mean round ((sharedScores round a b).keys.map (scoreOf round a b))))
        (sharedScores round a b) := by
  have hsome : (sharedScores round a b).isEmpty = false := by
    obtain ⟨key, hboth⟩ := hshared
    have hmem := ((@areShared_keys round a b ha).mem_iff key).mpr hboth
    rw [List.isEmpty_eq_false_iff]
    rintro heq
    rw [heq] at hmem
    cases hmem
  have hscores : (sharedScores round a b).map (·.2) =
      (sharedScores round a b).keys.map (scoreOf round a b) := by
    conv_lhs => rw [sharedScores_eq_map ha, List.map_map]
    rfl
  simp only [ofValues, hsome, hscores, Bool.false_eq_true, if_false]

/-- Two objects with a shared key are scored by the keys they share. -/
theorem areScores_ofValues (ha : a.keys.Nodup) (hshared : ∃ key ∈ a.keys, key ∈ b.keys) :
    AreScores round a b (sharedScores round a b).keys
      (ofValues round (some (.object a)) (some (.object b)) true) := by
  have hkeys := (@areShared_keys round a b ha).mem_iff
  rw [ofValues_of_shared ha hshared]
  refine ⟨(Entries.ascending_sorted _).insertSorted _ _, fun key => ?_, fun key hkey hne => ?_, ?_⟩
  · rw [Entries.mem_keys_iff_isSome, Entries.find?_insertSorted, Entries.mem_keys_iff_isSome]
    by_cases heq : all = key
    · simp [heq]
    · simp [heq, Ne.symm heq]
  · rw [Entries.find?_insertSorted, if_neg (Ne.symm hne), find?_sharedScores ha,
      if_pos ((hkeys key).mp hkey)]
  · rw [Entries.find?_insertSorted, if_pos rfl]

end

/-! ### The mean in doubles -/

/-- The mean of scores without any rounding. -/
def average (scores : List Rat) : Rat := scores.sum / scores.length

/-- A number in hundredths is a whole number of them, rounded, and hardly more than half of one
away from what it was. -/
theorem exists_hundredths_eq {value : Rat} (h : 0 ≤ value) (hbound : value ≤ 2 ^ 11) :
    ∃ count : Int, hundredths doubles value = doubles (count / 100) ∧
      |(count : Rat) / 100 - value| ≤ 1 / 200 + 2 ^ (-41 : Int) := by
  have hproduct : value * 100 ≤ 2 ^ 32 := by linarith
  have hpositive : 0 ≤ value * 100 := mul_nonneg h (by norm_num)
  have herror := abs_nearest_sub_le hpositive (lt_pow_of_le hproduct)
  refine ⟨(nearest (value * 100) + mkRat 1 2).floor, rfl, ?_⟩
  generalize nearest (value * 100) = product at herror ⊢
  have hle := Rat.floor_le (product + mkRat 1 2)
  have hlt := Rat.lt_floor_add_one (product + mkRat 1 2)
  rw [show mkRat 1 2 = 1 / 2 by norm_num [Rat.mkRat_eq_div]] at hle hlt ⊢
  push_cast at hlt
  rw [abs_le] at herror ⊢
  norm_num at herror hbound ⊢
  constructor
  · linarith
  · linarith

/-- No score is below zero, nor far above a hundred. -/
theorem scoreOf_bounds (a b : Entries Json) (key : String) :
    0 ≤ scoreOf doubles a b key ∧ scoreOf doubles a b key ≤ 2 ^ 9 := by
  obtain ⟨hlow, hhigh⟩ := isPercentage_ofWholes keepsWholes_doubles (by decide) (a.find? key)
    (b.find? key)
  exact ⟨hlow, hhigh.trans (by norm_num)⟩

/-- The sum of scores that are added to a number one by one, each sum rounded to a double. -/
def sumFrom (start : Rat) (scores : List Rat) : Rat :=
  scores.foldl (fun sum score => doubles (sum + score)) start

section

variable {start score : Rat} {known bound : Nat}

/-- One more score is added to a sum of a known number of scores. -/
theorem doubles_add_bounds (hstart : 0 ≤ start ∧ start ≤ 2 ^ 10 * known)
    (hscore : 0 ≤ score ∧ score ≤ 2 ^ 9) (hcount : known + 1 ≤ bound) (hbound : bound ≤ 2 ^ 50) :
    0 ≤ doubles (start + score) ∧ doubles (start + score) ≤ 2 ^ 10 * (known + 1 : Nat) ∧
      |doubles (start + score) - (start + score)| ≤ bound * 2 ^ (-43 : Int) := by
  have hcount' : (known : Rat) + 1 ≤ bound := by exact_mod_cast hcount
  have hbound' : (bound : Rat) ≤ 1125899906842624 := by exact_mod_cast hbound
  have hnonneg : 0 ≤ start + score := add_nonneg hstart.1 hscore.1
  have hsize : start + score < 2 ^ 1023 := by
    have hless : start + score < 2 ^ 64 := by
      norm_num at hstart hscore ⊢
      linarith
    exact hless.trans_le (pow_le_pow_right₀ one_le_two (by decide))
  have hsum := nearest_nonneg hnonneg hsize
  have herror := abs_nearest_sub_le hnonneg hsize
  clear hsize
  unfold doubles
  generalize nearest (start + score) = sum at hsum herror ⊢
  rw [abs_le] at herror ⊢
  push_cast
  norm_num at hstart hscore herror ⊢
  refine ⟨hsum, ?_, ?_, ?_⟩
  · linarith
  · linarith
  · linarith

/-- A rounded sum of scores is off by a small share of a score for each of them. -/
theorem sumFrom_bounds {scores : List Rat} (hscores : ∀ score ∈ scores, 0 ≤ score ∧ score ≤ 2 ^ 9)
    (hstart : 0 ≤ start ∧ start ≤ 2 ^ 10 * known) (hcount : known + scores.length ≤ bound)
    (hbound : bound ≤ 2 ^ 50) :
    0 ≤ sumFrom start scores ∧ sumFrom start scores ≤ 2 ^ 10 * (known + scores.length : Nat) ∧
      |sumFrom start scores - (start + scores.sum)| ≤
        scores.length * (bound * 2 ^ (-43 : Int)) := by
  induction scores generalizing start known with
  | nil => simpa [sumFrom] using hstart
  | cons score rest ih =>
    obtain ⟨hscore, hrest⟩ := List.forall_mem_cons.mp hscores
    rw [List.length_cons] at hcount
    obtain ⟨hnonneg, hless, herror⟩ := doubles_add_bounds hstart hscore (by omega) hbound
    obtain ⟨hnonneg', hless', herror'⟩ := ih hrest ⟨hnonneg, hless⟩ (by omega)
    rw [show known + 1 + rest.length = known + (rest.length + 1) by omega] at hless'
    refine ⟨hnonneg', hless', ?_⟩
    rw [List.sum_cons, List.length_cons]
    push_cast
    calc |sumFrom start (score :: rest) - (start + (score + rest.sum))|
        = |sumFrom (doubles (start + score)) rest - (doubles (start + score) + rest.sum) +
            (doubles (start + score) - (start + score))| := by
          congr 1
          rw [sumFrom, List.foldl_cons, ← sumFrom]
          ring
      _ ≤ rest.length * (bound * 2 ^ (-43 : Int)) + bound * 2 ^ (-43 : Int) :=
          (abs_add_le _ _).trans (add_le_add herror' herror)
      _ = (rest.length + 1) * (bound * 2 ^ (-43 : Int)) := by ring

end

/-- The mean of scores in doubles, in hundredths, is a whole number of hundredths that is hardly
more than half of one away from their mean. -/
theorem exists_hundredths_mean_eq {scores : List Rat}
    (hscores : ∀ score ∈ scores, 0 ≤ score ∧ score ≤ 2 ^ 9) (hnonempty : scores ≠ [])
    (hbound : scores.length ≤ 2 ^ 50) :
    ∃ count : Int, hundredths doubles (mean doubles scores) = doubles (count / 100) ∧
      |(count : Rat) / 100 - average scores| ≤
        1 / 200 + (scores.length + 6) * 2 ^ (-43 : Int) := by
  obtain ⟨hnonneg, hless, herror⟩ := @sumFrom_bounds 0 0 _ scores hscores
    (by norm_num) (Nat.le_of_eq (Nat.zero_add _)) hbound
  have hlength : (0 : Rat) < scores.length := by
    exact_mod_cast List.length_pos_iff.mpr hnonempty
  have hquotient : 0 ≤ sumFrom 0 scores / scores.length := div_nonneg hnonneg hlength.le
  have hbelow : sumFrom 0 scores / scores.length ≤ 2 ^ 10 := by
    rw [div_le_iff₀ hlength]
    simpa using hless
  have hshare : |sumFrom 0 scores / scores.length - average scores| ≤
      scores.length * 2 ^ (-43 : Int) := by
    rw [average, ← sub_div, abs_div, abs_of_pos hlength, div_le_iff₀ hlength]
    rw [zero_add] at herror
    linarith
  have hmean : mean doubles scores = nearest (sumFrom 0 scores / scores.length) := rfl
  have hrounded := nearest_nonneg hquotient (lt_pow_of_le (by linarith))
  have hoff := abs_nearest_sub_le hquotient (lt_pow_of_le (by linarith))
  rw [← hmean] at hrounded hoff
  rw [abs_le] at hoff
  norm_num at hbelow hoff
  obtain ⟨count, heq, hcount⟩ := exists_hundredths_eq hrounded (by norm_num; linarith)
  refine ⟨count, heq, ?_⟩
  rw [abs_le] at hcount hshare ⊢
  norm_num at hcount hshare ⊢
  constructor
  · linarith
  · linarith

/-! ### The mean of hundredths -/

/-- Without rounding the mean of scores is their mean. -/
theorem mean_exact (scores : List Rat) : mean exact scores = average scores := by
  unfold mean average exact
  simp only [id_eq, List.sum_eq_foldl]

/-- A score is a whole number of hundredths. -/
def IsHundredths (score : Rat) : Prop := ∃ count : Int, score = count / 100

/-- How similar two values are as wholes is a whole number of hundredths. -/
theorem isHundredths_ofWholes (a b : Option Json) : IsHundredths (ofWholes exact a b) := by
  have hall : IsHundredths 100 := ⟨10000, by norm_num⟩
  unfold ofWholes ofStrings
  split
  · exact hall
  · dsimp only
    split
    · exact hall
    · exact ⟨_, rfl⟩
  · exact ⟨0, by norm_num⟩

/-- The mean of scores is not less than any number that is not greater than one of them. -/
theorem le_average {bound : Rat} {scores : List Rat} (hnonempty : scores ≠ [])
    (h : ∀ score ∈ scores, bound ≤ score) : bound ≤ average scores := by
  have hlength : (0 : Rat) < scores.length := by
    exact_mod_cast List.length_pos_iff.mpr hnonempty
  rw [average, le_div_iff₀ hlength, mul_comm, ← nsmul_eq_mul]
  exact List.card_nsmul_le_sum scores bound h

/-- Where scores are in hundredths and none of them is below a minimum, neither is their mean in
hundredths. The minimum itself can be any number: the least number of hundredths that reaches it
is not greater than any of the scores, so it is not greater than the mean, and rounding to
hundredths cannot go below it. -/
theorem le_hundredths_average {minimum : Rat} {scores : List Rat} (hnonempty : scores ≠ [])
    (hscores : ∀ score ∈ scores, IsHundredths score) (h : ∀ score ∈ scores, minimum ≤ score) :
    minimum ≤ hundredths exact (average scores) := by
  have hreaches : minimum ≤ ((minimum * 100).ceil : Rat) / 100 := by
    have hceil : minimum * 100 ≤ ((minimum * 100).ceil : Rat) := Rat.le_ceil
    linarith
  have hleast : ∀ score ∈ scores, ((minimum * 100).ceil : Rat) / 100 ≤ score := by
    intro score hscore
    obtain ⟨count, rfl⟩ := hscores score hscore
    have hbelow := h _ hscore
    have hcount : (minimum * 100).ceil ≤ count := by
      rw [Rat.ceil_le_iff]
      linarith
    have hcast : ((minimum * 100).ceil : Rat) ≤ count := by exact_mod_cast hcount
    linarith
  have hmean := le_average hnonempty hleast
  have hfloor : (minimum * 100).ceil ≤ (average scores * 100 + mkRat 1 2).floor := by
    rw [Rat.le_floor_iff, Rat.mkRat_eq_div]
    push_cast
    linarith
  have hcast : ((minimum * 100).ceil : Rat) ≤ (average scores * 100 + mkRat 1 2).floor := by
    exact_mod_cast hfloor
  calc minimum ≤ ((minimum * 100).ceil : Rat) / 100 := hreaches
    _ ≤ ((average scores * 100 + mkRat 1 2).floor : Rat) / 100 :=
        div_le_div_of_nonneg_right hcast (by norm_num)
    _ = hundredths exact (average scores) := rfl

/-! ### The scores of two objects -/

section

variable {a b : Entries Json}

/-- There is one way to list shared keys in ascending order. -/
theorem AreShared.unique {shared others : List String} (h : AreShared a b shared)
    (h' : AreShared a b others) : shared = others := by
  have hne {key other : String} (hbefore : textBefore key other = true) : key ≠ other := by
    rintro rfl
    rw [isLinear_textBefore.irrefl] at hbefore
    cases hbefore
  have hperm : shared.Perm others := by
    rw [List.perm_ext_iff_of_nodup (h.ascending.imp hne) (h'.ascending.imp hne)]
    exact fun key => (h.mem_iff key).trans (h'.mem_iff key).symm
  refine hperm.eq_of_pairwise (fun key other _ _ hbefore hafter => ?_) h.ascending h'.ascending
  rw [isLinear_textBefore.asymm hbefore] at hafter
  cases hafter

/-- Two objects that share a key are scored by exactly the keys they share, whatever the rounding.
The score of all is the mean of the scores of these keys in hundredths, half a hundredth being
rounded up; in doubles, where the sum, the mean and the product are rounded as well, it is a number
of hundredths that is hardly more than half of one away from the mean. -/
theorem ofValues_sharedKeys (ha : a.keys.Nodup) (hshared : ∃ key ∈ a.keys, key ∈ b.keys) :
    ∃ shared, AreShared a b shared ∧
      (∀ round, AreScores round a b shared
        (ofValues round (some (.object a)) (some (.object b)) true)) ∧
      (ofValues exact (some (.object a)) (some (.object b)) true).find? all =
        some (((average (shared.map (scoreOf exact a b)) * 100 + 1 / 2).floor : Rat) / 100) ∧
      (shared.length ≤ 2 ^ 50 → ∃ count : Int,
        (ofValues doubles (some (.object a)) (some (.object b)) true).find? all =
          some (doubles (count / 100)) ∧
        |(count : Rat) / 100 - average (shared.map (scoreOf doubles a b))| ≤
          1 / 200 + (shared.length + 6) * 2 ^ (-43 : Int)) := by
  have hkeys := @areShared_keys exact a b ha
  have hscores (round : Rounding) : AreScores round a b (sharedScores exact a b).keys
      (ofValues round (some (.object a)) (some (.object b)) true) := by
    rw [hkeys.unique (@areShared_keys round a b ha)]
    exact areScores_ofValues ha hshared
  refine ⟨(sharedScores exact a b).keys, hkeys, hscores, ?_, fun hlength => ?_⟩
  · rw [(hscores exact).find?_all, mean_exact]
    simp [hundredths, exact, Rat.mkRat_eq_div]
  · rw [(hscores doubles).find?_all]
    have hnonempty : (sharedScores exact a b).keys ≠ [] := by
      obtain ⟨key, hboth⟩ := hshared
      exact List.ne_nil_of_mem ((hkeys.mem_iff key).mpr hboth)
    have hbounds : ∀ score ∈ (sharedScores exact a b).keys.map (scoreOf doubles a b),
        0 ≤ score ∧ score ≤ 2 ^ 9 :=
      List.forall_mem_map.mpr fun key _ => scoreOf_bounds a b key
    obtain ⟨count, heq, herror⟩ := exists_hundredths_mean_eq hbounds
      (by simpa using hnonempty) (by simpa using hlength)
    rw [List.length_map] at herror
    exact ⟨count, congrArg some heq, herror⟩

end

/-- The scripts of two packages that share the key of one of them. -/
theorem ofValues_sharedKeys_scripts :
    let a : Entries Json := [("build", .string "tsc"), ("lint", .string "eslint .")]
    let b : Entries Json := [("lint", .string "eslint src"), ("test", .string "jest")]
    a.keys.Nodup ∧ (∃ key ∈ a.keys, key ∈ b.keys) ∧ ∃ shared, AreShared a b shared ∧
      (∀ round, AreScores round a b shared
        (ofValues round (some (.object a)) (some (.object b)) true)) ∧
      (ofValues exact (some (.object a)) (some (.object b)) true).find? all =
        some (((average (shared.map (scoreOf exact a b)) * 100 + 1 / 2).floor : Rat) / 100) ∧
      (shared.length ≤ 2 ^ 50 → ∃ count : Int,
        (ofValues doubles (some (.object a)) (some (.object b)) true).find? all =
          some (doubles (count / 100)) ∧
        |(count : Rat) / 100 - average (shared.map (scoreOf doubles a b))| ≤
          1 / 200 + (shared.length + 6) * 2 ^ (-43 : Int)) :=
  ⟨by decide, by decide, ofValues_sharedKeys (by decide) (by decide)⟩

/-- Where the shared keys include that of the score of all, its own score is not found. Here it is
`0`, and the score of all `50`. -/
theorem not_ownScore_ofAll :
    ¬ ∀ a b : Entries Json, a.keys.Nodup → b.keys.Nodup → ∀ key ∈ a.keys, key ∈ b.keys →
      (ofValues doubles (some (.object a)) (some (.object b)) true).find? key =
        some (scoreOf doubles a b key) := by
  intro h
  have hown := h [("_all", .number (.whole 1)), ("x", .number (.whole 1))]
    [("_all", .number (.whole 2)), ("x", .number (.whole 1))] (by decide) (by decide) all
    (by decide) (by decide)
  revert hown
  decide +kernel

end Conventions.Similarity
