import Conventions.Content.Similarity
import Conventions.Proofs.Binary64.Rounding
import Conventions.Proofs.Content.EditDistance

/-!
# Texts with a full score

A score has two decimals, so texts that are hardly different have the full one. With the rounding
of doubles the quotient, the percentage and the hundredths are each rounded once more, and what
has to be known of each step is from which double on it leads to the full score.
-/

namespace Conventions.Similarity

open Binary64

/-- The mantissa of the least quotient that leads to the full score; it is `0.99995`. -/
def leastQuotient : Nat := 9006748894778255

/-- The mantissa of the least percentage that leads to the full score; it is `99.995`. -/
def leastPercentage : Nat := 7036522574045512

/-- A percentage from the least one on is rounded to the full score in hundredths. -/
theorem le_hundredths {value : Rat} (h : leastPercentage * 2 ^ (-46 : Int) ≤ value)
    (hbound : value ≤ 2 ^ 8) : 100 ≤ hundredths doubles value := by
  unfold leastPercentage at h
  norm_num at h hbound
  -- The product is rounded to `9999.5` at least, which makes `10000` whole hundredths.
  have hreaches : Reaches (value * 100) 5497283260973056 (-39) := by
    left
    norm_num
    linarith
  have hrounded := le_nearest (lt_pow_of_le (by norm_num; linarith)) (by decide) (by norm_num)
    (by norm_num) hreaches
  have habove : nearest (value * 100) ≤ 2 ^ (15 : Int) :=
    nearest_le_pow (by decide) (by decide) (by norm_num; linarith)
  unfold hundredths doubles
  generalize nearest (value * 100) = rounded at hrounded habove ⊢
  norm_num at hrounded habove
  have hwhole : 10000 ≤ (rounded + mkRat 1 2).floor := by
    rw [Rat.le_floor_iff]
    norm_num [Rat.mkRat_eq_div]
    linarith
  have hwhole' : (rounded + mkRat 1 2).floor ≤ 32768 := by
    rw [← Int.lt_add_one_iff, Rat.floor_lt_iff]
    norm_num [Rat.mkRat_eq_div]
    linarith
  generalize (rounded + mkRat 1 2).floor = whole at hwhole hwhole' ⊢
  have hwhole : (10000 : Rat) ≤ whole := by exact_mod_cast hwhole
  have hwhole' : (whole : Rat) ≤ 32768 := by exact_mod_cast hwhole'
  have hfull : Reaches ((whole : Rat) / 100) 7036874417766400 (-46) := by
    left
    norm_num
    linarith
  have hscore := le_nearest (lt_pow_of_le (by norm_num; linarith)) (by decide) (by norm_num)
    (by norm_num) hfull
  norm_num at hscore
  exact hscore

/-- A percentage below the least one is not rounded to the full score in hundredths. -/
theorem hundredths_lt {value : Rat} (h : value ≤ (leastPercentage - 1) * 2 ^ (-46 : Int)) :
    hundredths doubles value < 100 := by
  unfold leastPercentage at h
  norm_num at h
  have hnot : ¬ Reaches (value * 100) 5497283260973056 (-39) := by
    rintro (hless | ⟨heq, -⟩)
    · norm_num at hless
      linarith
    · norm_num at heq
      linarith
  have hrounded := nearest_le (lt_pow_of_le (by norm_num; linarith)) (by decide) (by norm_num)
    (by norm_num) hnot
  unfold hundredths doubles
  generalize nearest (value * 100) = rounded at hrounded ⊢
  norm_num at hrounded
  have hwhole : (rounded + mkRat 1 2).floor ≤ 9999 := by
    rw [← Int.lt_add_one_iff, Rat.floor_lt_iff]
    norm_num [Rat.mkRat_eq_div]
    linarith
  generalize (rounded + mkRat 1 2).floor = whole at hwhole ⊢
  have hwhole : (whole : Rat) ≤ 9999 := by exact_mod_cast hwhole
  have hless : ¬ Reaches ((whole : Rat) / 100) 7036874417766400 (-46) := by
    rintro (hless | ⟨heq, -⟩)
    · norm_num at hless
      linarith
    · norm_num at heq
      linarith
  have hscore := nearest_le (lt_pow_of_le (by norm_num; linarith)) (by decide) (by norm_num)
    (by norm_num) hless
  norm_num at hscore
  linarith

/-- A distance is so small a share of a length that the rest counts as all of it. The greatest such
share is the 20000th part, up to the rounding of the quotient. -/
def IsSlight (length distance : Nat) : Prop := distance * 2 ^ 54 < 900719925475 * length

/-- The quotient of what is left reaches the least one exactly if the distance is slight. -/
theorem reaches_leastQuotient_iff {length distance : Nat} (hlength : 0 < length) :
    Reaches ((((length : Int) - (distance : Int) : Int) : Rat) / (length : Rat))
      leastQuotient (-53) ↔ IsSlight length distance := by
  have hpositive : (0 : Rat) < length := by exact_mod_cast hlength
  have hodd : ¬ leastQuotient % 2 = 0 := by decide
  unfold Reaches IsSlight
  rw [lt_div_iff₀ hpositive, ← Nat.cast_lt (α := Rat)]
  simp only [hodd, and_false, or_false]
  unfold leastQuotient
  push_cast
  norm_num
  constructor
  · intro h
    linarith
  · intro h
    linarith

/-- What is left is not more than all. -/
theorem quotient_le_one (length distance : Nat) :
    (((length : Int) - (distance : Int) : Int) : Rat) / (length : Rat) ≤ 1 := by
  apply div_le_one_of_le₀
  · push_cast
    linarith [(Nat.cast_nonneg distance : (0 : Rat) ≤ distance)]
  · exact Nat.cast_nonneg _

/-- A share is a percentage. -/
theorem share_le_pow (length distance : Nat) : share doubles length distance ≤ 2 ^ 8 := by
  have hquotient : nearest ((((length : Int) - (distance : Int) : Int) : Rat) / (length : Rat)) ≤
      2 ^ (0 : Int) :=
    nearest_le_pow (by decide) (by decide) (quotient_le_one length distance)
  have hpercentage :
      nearest ((((length : Int) - (distance : Int) : Int) : Rat) / (length : Rat)) * 100 ≤
        2 ^ (8 : Int) := by
    norm_num at hquotient ⊢
    linarith
  unfold share doubles
  exact nearest_le_pow (by decide) (by decide) hpercentage

/-- If the distance is slight, the share is a percentage that leads to the full score. -/
theorem le_share {length distance : Nat} (hlength : 0 < length) (h : IsSlight length distance) :
    leastPercentage * 2 ^ (-46 : Int) ≤ share doubles length distance := by
  have hquotient := quotient_le_one length distance
  have hreaches := (reaches_leastQuotient_iff hlength).mpr h
  unfold share doubles
  generalize (((length : Int) - (distance : Int) : Int) : Rat) / (length : Rat) = quotient
    at hquotient hreaches ⊢
  have hbelow : nearest quotient ≤ 2 ^ (0 : Int) :=
    nearest_le_pow (by decide) (by decide) (by norm_num; exact hquotient)
  have hrounded := le_nearest (lt_pow_of_le (by norm_num; linarith)) (by decide) (by decide)
    (by decide) hreaches
  generalize nearest quotient = rounded at hbelow hrounded ⊢
  unfold leastQuotient at hrounded
  norm_num at hbelow hrounded
  apply le_nearest (lt_pow_of_le (by norm_num; linarith)) (by decide) (by decide) (by decide)
  left
  unfold leastPercentage
  norm_num
  linarith

/-- If the distance is not slight, the share is a percentage that does not lead to the full
score. -/
theorem share_le {length distance : Nat} (hlength : 0 < length) (h : ¬ IsSlight length distance) :
    share doubles length distance ≤ (leastPercentage - 1) * 2 ^ (-46 : Int) := by
  have hquotient := quotient_le_one length distance
  have hnot := mt (reaches_leastQuotient_iff hlength).mp h
  unfold share doubles
  generalize (((length : Int) - (distance : Int) : Int) : Rat) / (length : Rat) = quotient
    at hquotient hnot ⊢
  have hrounded := nearest_le (lt_pow_of_le (by norm_num; linarith)) (by decide) (by decide)
    (by decide) hnot
  generalize nearest quotient = rounded at hrounded ⊢
  unfold leastQuotient at hrounded
  norm_num at hrounded
  apply nearest_le (lt_pow_of_le (by norm_num; linarith)) (by decide) (by decide) (by decide)
  unfold leastPercentage
  rintro (hless | ⟨heq, -⟩)
  · norm_num at hless
    linarith
  · norm_num at heq
    linarith

/-- The distance of two texts is zero for equal ones only. -/
theorem levenshtein_eq_zero_iff {a b : String} : levenshtein a b = 0 ↔ a = b := by
  have hleast := isLeast_distance a.toList b.toList
  constructor
  · intro hzero
    have hedits : EditsTo (levenshtein a b) a.toList b.toList := hleast.1
    rw [hzero] at hedits
    exact String.toList_inj.mp hedits.eq_of_zero
  · rintro rfl
    exact Nat.le_zero.mp (hleast.2 (EditsTo.none a.toList))

/-- A text has the full score against a reference exactly if it is the same, or its distance is a
slight share of the length of the reference. -/
theorem hundred_le_ofTexts_iff (reference other : String) :
    100 ≤ ofTexts doubles reference other ↔
      reference = other ∨ IsSlight reference.length (levenshtein reference other) := by
  unfold ofTexts
  by_cases hempty : reference.length = 0
  · have hreference : reference = "" := String.length_eq_zero_iff.mp hempty
    subst hreference
    by_cases hother : other.length = 0
    · obtain rfl : other = "" := String.length_eq_zero_iff.mp hother
      simp
    · have hne : "" ≠ other := by
        rintro rfl
        exact hother rfl
      simp [hother, hne, IsSlight]
  · have hlength : 0 < reference.length := Nat.pos_of_ne_zero hempty
    simp only [if_neg hempty]
    by_cases hslight : IsSlight reference.length (levenshtein reference other)
    · have hshare := le_share hlength hslight
      have hpositive : ¬ share doubles reference.length (levenshtein reference other) < 0 := by
        refine not_lt.mpr (le_trans ?_ hshare)
        positivity
      simp only [if_neg hpositive, hslight, or_true, iff_true]
      exact le_hundredths hshare (share_le_pow _ _)
    · have hshare := share_le hlength hslight
      have hless : hundredths doubles
          (if share doubles reference.length (levenshtein reference other) < 0 then 0
            else share doubles reference.length (levenshtein reference other)) < 100 := by
        apply hundredths_lt
        split
        · unfold leastPercentage
          norm_num
        · exact hshare
      have hne : reference ≠ other := by
        intro heq
        rw [levenshtein_eq_zero_iff.mpr heq, IsSlight, Nat.zero_mul] at hslight
        exact hslight (Nat.mul_pos (by norm_num) hlength)
      simp only [hslight, hne, or_self, iff_false, not_le]
      exact hless

/-- Up to a length of `10 ^ 11`, a distance is slight exactly if it is not more than the 20000th
part of the length. -/
theorem eq_or_isSlight_iff {a b : String} (h : a.length < 10 ^ 11) :
    a = b ∨ IsSlight a.length (levenshtein a b) ↔ 20000 * levenshtein a b ≤ a.length := by
  rw [← levenshtein_eq_zero_iff, IsSlight]
  omega

end Conventions.Similarity
