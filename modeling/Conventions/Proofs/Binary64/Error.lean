import Conventions.Proofs.Binary64.Rounding

/-!
# How far rounding goes

A positive number and the double nearest to it are at most half a unit of the last place apart.
For numbers that are not tiny this is a fixed share of the number; for the tiny ones it is less
than the same share of one.
-/

namespace Conventions.Binary64

variable {value : Rat}

/-- Zero is a double. -/
theorem nearest_zero : nearest 0 = 0 := by decide +kernel

/-- Numbers that are not below zero are not rounded below it. -/
theorem nearest_nonneg (h : 0 ≤ value) (hbound : value < 2 ^ 1023) : 0 ≤ nearest value := by
  rcases h.eq_or_lt with rfl | hpositive
  · rw [nearest_zero]
  · obtain ⟨mantissa, hnearest, -⟩ := exists_nearest_eq hpositive hbound
    rw [hnearest]
    exact mul_nonneg (Nat.cast_nonneg _) (zpow_nonneg zero_le_two _)

/-- A positive number is half a unit of the last place away from its double at most. -/
theorem abs_nearest_sub_le_half (h : 0 < value) (hbound : value < 2 ^ 1023) :
    |nearest value - value| ≤ 2 ^ exponentFor value / 2 := by
  obtain ⟨mantissa, hnearest, -, -, hreaches⟩ := exists_nearest_eq h hbound
  have hunit : (0 : Rat) < 2 ^ exponentFor value := by positivity
  have hbelow : ((mantissa : Rat) - 1 / 2) * 2 ^ exponentFor value ≤ value := by
    rcases Nat.eq_zero_or_pos mantissa with rfl | hpositive
    · refine le_trans (mul_nonpos_of_nonpos_of_nonneg (by norm_num) hunit.le) h.le
    · rcases (hreaches mantissa hpositive).mp le_rfl with hless | ⟨heq, -⟩
      · exact hless.le
      · exact heq.le
  have habove : value ≤ ((mantissa : Rat) + 1 / 2) * 2 ^ exponentFor value := by
    have hnot := mt (hreaches (mantissa + 1) (by omega)).mpr (by omega)
    have hle := not_lt.mp fun hless => hnot (Or.inl hless)
    push_cast at hle
    linarith
  rw [hnearest, abs_le]
  constructor
  · linarith
  · linarith

/-- Rounding changes a number by a small share of it, or of one. -/
theorem abs_nearest_sub_le (h : 0 ≤ value) (hbound : value < 2 ^ 1023) :
    |nearest value - value| ≤ (value + 1) * 2 ^ (-53 : Int) := by
  rcases h.eq_or_lt with rfl | hpositive
  · rw [nearest_zero]
    norm_num
  · refine (abs_nearest_sub_le_half hpositive hbound).trans ?_
    have hsmall : (0 : Rat) < 2 ^ (-53 : Int) := by positivity
    obtain ⟨-, -, hleast | hnormal⟩ := exponentFor_bounds hpositive
    · calc (2 : Rat) ^ exponentFor value / 2 ≤ 2 ^ exponentFor value := by
            have hunit : (0 : Rat) < 2 ^ exponentFor value := by positivity
            linarith
        _ ≤ 2 ^ (-53 : Int) := by
            rw [hleast]
            exact zpow_le_zpow_right₀ one_le_two (by decide)
        _ ≤ (value + 1) * 2 ^ (-53 : Int) := by nlinarith
    · calc (2 : Rat) ^ exponentFor value / 2 = 2 ^ (exponentFor value + 52) * 2 ^ (-53 : Int) := by
            rw [← zpow_add₀ two_ne_zero, show exponentFor value + 52 + -53 = exponentFor value - 1
              by omega, zpow_sub_one₀ two_ne_zero, div_eq_mul_inv]
        _ ≤ (value + 1) * 2 ^ (-53 : Int) := by
            apply mul_le_mul_of_nonneg_right _ hsmall.le
            linarith

/-! ### Whole numbers -/

section

variable {whole : Nat}

/-- A whole number that is not too great is a mantissa of 53 bits and a power of two. -/
theorem exists_mantissa (hpositive : 0 < whole) (hbound : whole ≤ 2 ^ 50) :
    ∃ mantissa power : Nat, (whole : Rat) = mantissa * 2 ^ (-(power : Int)) ∧
      2 ^ 52 ≤ mantissa ∧ mantissa < 2 ^ 53 ∧ power ≤ 52 := by
  have hlow := Nat.log2_self_le (n := whole) (by omega)
  have hhigh := Nat.lt_log2_self (n := whole)
  have hlog : whole.log2 ≤ 50 := (Nat.pow_le_pow_iff_right (by decide)).mp (hlow.trans hbound)
  have hsplit : 2 ^ whole.log2 * 2 ^ (52 - whole.log2) = 2 ^ 52 := by
    rw [← Nat.pow_add, show whole.log2 + (52 - whole.log2) = 52 by omega]
  refine ⟨whole * 2 ^ (52 - whole.log2), 52 - whole.log2, ?_, ?_, ?_, by omega⟩
  · push_cast
    rw [mul_assoc, zpow_neg, zpow_natCast, mul_inv_cancel₀ (by positivity), mul_one]
  · rw [← hsplit]
    exact Nat.mul_le_mul_right _ hlow
  · calc whole * 2 ^ (52 - whole.log2) < 2 ^ (whole.log2 + 1) * 2 ^ (52 - whole.log2) :=
          Nat.mul_lt_mul_of_pos_right hhigh (by positivity)
      _ = 2 ^ 53 := by
        rw [Nat.pow_succ, Nat.mul_right_comm, hsplit]
        norm_num

/-- What is not above a whole number is not rounded to anything above it. -/
theorem nearest_le_whole (h : value ≤ whole) (hbound : whole ≤ 2 ^ 50) :
    nearest value ≤ whole := by
  rcases Nat.eq_zero_or_pos whole with rfl | hpositive
  · exact_mod_cast nearest_nonpos (by exact_mod_cast h)
  obtain ⟨mantissa, power, hwhole, hlow, hhigh, hpower⟩ := exists_mantissa hpositive hbound
  have hunit : (0 : Rat) < 2 ^ (-(power : Int)) := by positivity
  have hsize : value < 2 ^ 1023 := by
    have hcast : (whole : Rat) ≤ 2 ^ 50 := by exact_mod_cast hbound
    exact (h.trans hcast).trans_lt (pow_lt_pow_right₀ one_lt_two (by decide))
  have hnot : ¬ Reaches value (mantissa + 1) (-(power : Int)) := by
    rw [hwhole] at h
    have hmidpoint : value < ((mantissa + 1 : Nat) - 1 / 2) * 2 ^ (-(power : Int)) := by
      push_cast
      linarith
    rintro (hless | ⟨heq, -⟩)
    · exact lt_asymm hless hmidpoint
    · exact hmidpoint.ne' heq
  have hle := nearest_le hsize (by unfold minExponent; omega) (by omega) (by omega) hnot
  rw [hwhole]
  simpa using hle

/-- What is not below a whole number is not rounded to anything below it. -/
theorem whole_le_nearest (h : whole ≤ value) (hbound : value ≤ 2 ^ 50) :
    whole ≤ nearest value := by
  have hsize : value < 2 ^ 1023 :=
    hbound.trans_lt (pow_lt_pow_right₀ one_lt_two (by decide))
  rcases Nat.eq_zero_or_pos whole with rfl | hpositive
  · exact_mod_cast nearest_nonneg (by exact_mod_cast h) hsize
  have hbound' : whole ≤ 2 ^ 50 := by exact_mod_cast h.trans hbound
  obtain ⟨mantissa, power, hwhole, hlow, hhigh, hpower⟩ := exists_mantissa hpositive hbound'
  -- A power of two is the greatest mantissa of the exponent below.
  have htwice : (whole : Rat) = (2 * mantissa : Nat) * 2 ^ (-(power : Int) - 1) := by
    rw [hwhole, zpow_sub_one₀ two_ne_zero]
    push_cast
    ring
  have hreaches {mantissa : Nat} {exponent : Int} (heq : (whole : Rat) = mantissa * 2 ^ exponent) :
      Reaches value mantissa exponent := by
    have hunit : (0 : Rat) < 2 ^ exponent := by positivity
    left
    linarith
  rcases hlow.eq_or_lt with hleast | hgreater
  · rw [htwice]
    exact le_nearest hsize (by unfold minExponent; omega) (by omega) (by omega) (hreaches htwice)
  · rw [hwhole]
    exact le_nearest hsize (by unfold minExponent; omega) hgreater hhigh.le (hreaches hwhole)

end

end Conventions.Binary64
