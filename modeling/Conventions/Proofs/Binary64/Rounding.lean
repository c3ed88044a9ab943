import Conventions.Binary64.Basic
import Mathlib.Algebra.Order.Field.Power
import Mathlib.Algebra.Order.Field.Rat
import Mathlib.Data.Rat.Cast.Order
import Mathlib.Tactic.FieldSimp
import Mathlib.Tactic.Linarith
import Mathlib.Tactic.NormNum
import Mathlib.Tactic.Positivity
import Mathlib.Tactic.Ring

/-!
# Where doubles are rounded up

A positive number is rounded to the multiple of a power of two that is nearest to it, a tie to the
even one. So the numbers that are rounded to a given double or to a greater one are those above a
midpoint, and the midpoint itself if the double is even. Between the steps of a computation this
is all that has to be known about rounding.
-/

namespace Conventions.Binary64

/-! ### Multiples of a power of two -/

/-- The exact value of a mantissa with its exponent. -/
theorem magnitude_eq (mantissa : Nat) (exponent : Int) :
    magnitude mantissa exponent = mantissa * (2 : Rat) ^ exponent := by
  unfold magnitude
  split
  · next h =>
    obtain ⟨k, rfl⟩ := Int.eq_ofNat_of_zero_le h
    simp [Nat.shiftLeft_eq]
  · next h =>
    obtain ⟨k, hk⟩ := Int.eq_ofNat_of_zero_le (show 0 ≤ -exponent by omega)
    obtain rfl : exponent = -k := by omega
    simp [Nat.shiftLeft_eq, Rat.mkRat_eq_div, div_eq_mul_inv]

/-- A quotient is rounded to a number or a greater one if it is above the midpoint below that
number, or is this midpoint and the number is even. -/
theorem le_divideToEven_iff {numerator denominator count : Nat} (hdenominator : 0 < denominator)
    (hcount : 0 < count) : count ≤ divideToEven numerator denominator ↔
      (2 * count - 1) * denominator < 2 * numerator ∨
        (2 * count - 1) * denominator = 2 * numerator ∧ count % 2 = 0 := by
  have hdivision := Nat.div_add_mod numerator denominator
  have hremainder := Nat.mod_lt numerator hdenominator
  unfold divideToEven
  generalize numerator / denominator = quotient at hdivision ⊢
  generalize numerator % denominator = remainder at hdivision hremainder ⊢
  dsimp only
  -- The midpoint below `count` is compared with the one above the quotient.
  rcases Nat.lt_trichotomy count (quotient + 1) with hless | rfl | hmore
  · have hmidpoint : (2 * count - 1) * denominator < 2 * numerator := by
      obtain ⟨before, rfl⟩ : ∃ before, count = before + 1 := ⟨count - 1, by omega⟩
      have hfactor : (2 * (before + 1) - 1) * denominator = 2 * (before * denominator) + denominator := by
        rw [show 2 * (before + 1) - 1 = 2 * before + 1 by omega]
        ring
      have hbefore : before * denominator + denominator ≤ denominator * quotient := by
        calc before * denominator + denominator = denominator * (before + 1) := by ring
          _ ≤ denominator * quotient := Nat.mul_le_mul_left _ (by omega)
      omega
    simp only [hmidpoint, true_or, iff_true]
    split_ifs <;> omega
  · have hfactor : (2 * (quotient + 1) - 1) * denominator =
        2 * (denominator * quotient) + denominator := by
      rw [show 2 * (quotient + 1) - 1 = 2 * quotient + 1 by omega]
      ring
    split_ifs <;> omega
  · have hmidpoint : 2 * numerator < (2 * count - 1) * denominator := by
      have hmultiple : denominator * (2 * quotient + 3) ≤ denominator * (2 * count - 1) :=
        Nat.mul_le_mul_left _ (by omega)
      have hfactor : denominator * (2 * quotient + 3) =
          2 * (denominator * quotient) + 3 * denominator := by ring
      rw [Nat.mul_comm denominator (2 * count - 1)] at hmultiple
      omega
    split_ifs <;> omega

/-- A number is at least the midpoint from which on it is rounded to a mantissa or a greater one
with the same exponent. -/
def Reaches (value : Rat) (mantissa : Nat) (exponent : Int) : Prop :=
  (mantissa - 1 / 2) * 2 ^ exponent < value ∨
    (mantissa - 1 / 2) * 2 ^ exponent = value ∧ mantissa % 2 = 0

/-- A quotient is rounded to a mantissa or a greater one if it reaches it. -/
theorem le_scaled_iff {numerator denominator mantissa : Nat} {exponent : Int}
    (hdenominator : 0 < denominator) (hmantissa : 0 < mantissa) :
    mantissa ≤ scaled numerator denominator exponent ↔
      Reaches (numerator / denominator) mantissa exponent := by
  have hpositive : (0 : Rat) < denominator := by exact_mod_cast hdenominator
  -- Both sides as a comparison of whole numbers.
  have hreaches (scale unscale : Nat) (hscale : (2 : Rat) ^ exponent = scale / unscale)
      (hunscale : 0 < unscale) :
      Reaches (numerator / denominator) mantissa exponent ↔
        (2 * mantissa - 1) * (denominator * scale) < 2 * (numerator * unscale) ∨
          (2 * mantissa - 1) * (denominator * scale) = 2 * (numerator * unscale) ∧
            mantissa % 2 = 0 := by
    have hpositive' : (0 : Rat) < unscale := by exact_mod_cast hunscale
    have hcast : ((2 * mantissa - 1 : Nat) : Rat) = 2 * mantissa - 1 := by
      rw [Nat.cast_sub (by omega)]
      push_cast
      ring
    have hlt : ((mantissa : Rat) - 1 / 2) * 2 ^ exponent < numerator / denominator ↔
        (2 * mantissa - 1) * (denominator * scale) < 2 * (numerator * unscale) := by
      rw [hscale, lt_div_iff₀ hpositive, ← Nat.cast_lt (α := Rat)]
      push_cast [hcast]
      rw [← mul_lt_mul_iff_left₀ (mul_pos two_pos hpositive')]
      field_simp
    have heq : ((mantissa : Rat) - 1 / 2) * 2 ^ exponent = numerator / denominator ↔
        (2 * mantissa - 1) * (denominator * scale) = 2 * (numerator * unscale) := by
      rw [hscale, eq_div_iff hpositive.ne', ← Nat.cast_inj (R := Rat)]
      push_cast [hcast]
      rw [← mul_left_inj' (mul_pos two_pos hpositive').ne']
      field_simp
    rw [Reaches, hlt, heq]
  unfold scaled
  split
  · next h =>
    obtain ⟨k, rfl⟩ := Int.eq_ofNat_of_zero_le h
    rw [hreaches (2 ^ k) 1 (by simp) one_pos, Nat.mul_one, Int.toNat_natCast, Nat.shiftLeft_eq,
      le_divideToEven_iff (by positivity) hmantissa]
  · next h =>
    obtain ⟨k, hk⟩ := Int.eq_ofNat_of_zero_le (show 0 ≤ -exponent by omega)
    obtain rfl : exponent = -k := by omega
    rw [hreaches 1 (2 ^ k) (by simp) (by positivity), Nat.mul_one, Int.neg_neg,
      Int.toNat_natCast, Nat.shiftLeft_eq, le_divideToEven_iff hdenominator hmantissa]

/-! ### Exponents -/

/-- A number lies between the powers of two that its logarithm tells. -/
theorem log2_bounds {number : Nat} (h : 0 < number) :
    (2 : Rat) ^ (number.log2 : Int) ≤ number ∧ (number : Rat) < 2 ^ ((number.log2 : Int) + 1) := by
  have hlow := Nat.log2_self_le (n := number) (by omega)
  have hhigh := Nat.lt_log2_self (n := number)
  constructor
  · rw [zpow_natCast]
    exact_mod_cast hlow
  · rw [← Nat.cast_succ, zpow_natCast]
    exact_mod_cast hhigh

/-- The test for the exponent compares the quotient with a power of two. -/
theorem shifted_le_iff (numerator : Nat) {denominator : Nat} (hdenominator : 0 < denominator)
    (estimate : Int) :
    (if 0 ≤ estimate then denominator <<< (estimate.toNat + 52) ≤ numerator
      else denominator <<< 52 ≤ numerator <<< (-estimate).toNat) ↔
      (2 : Rat) ^ (estimate + 52) ≤ numerator / denominator := by
  have hpositive : (0 : Rat) < denominator := by exact_mod_cast hdenominator
  rw [le_div_iff₀ hpositive]
  split
  · next h =>
    obtain ⟨k, rfl⟩ := Int.eq_ofNat_of_zero_le h
    have hpower : (2 : Rat) ^ ((k : Int) + 52) = ((2 ^ (k + 52) : Nat) : Rat) := by
      rw [zpow_add₀ two_ne_zero, zpow_natCast]
      push_cast
      rw [pow_add]
      norm_num
    rw [hpower, Int.toNat_natCast, Nat.shiftLeft_eq, Nat.mul_comm]
    norm_cast
  · next h =>
    obtain ⟨k, hk⟩ := Int.eq_ofNat_of_zero_le (show 0 ≤ -estimate by omega)
    obtain rfl : estimate = -k := by omega
    have hpower : (2 : Rat) ^ (-(k : Int) + 52) = 2 ^ 52 / ((2 ^ k : Nat) : Rat) := by
      rw [zpow_add₀ two_ne_zero, zpow_neg, zpow_natCast, mul_comm, div_eq_mul_inv]
      push_cast
      norm_num
    have hscale : (0 : Rat) < ((2 ^ k : Nat) : Rat) := by positivity
    rw [hpower, div_mul_eq_mul_div, div_le_iff₀ hscale, Int.neg_neg, Int.toNat_natCast,
      Nat.shiftLeft_eq, Nat.shiftLeft_eq, Nat.mul_comm denominator]
    norm_cast

/-- With its exponent a positive quotient has a mantissa below `2 ^ 53`, which is not below
`2 ^ 52` unless the exponent is the least one. -/
theorem exponentOf_bounds {numerator denominator : Nat} (hnumerator : 0 < numerator)
    (hdenominator : 0 < denominator) :
    minExponent ≤ exponentOf numerator denominator ∧
      (numerator / denominator : Rat) < 2 ^ (exponentOf numerator denominator + 53) ∧
      (exponentOf numerator denominator = minExponent ∨
        (2 : Rat) ^ (exponentOf numerator denominator + 52) ≤ numerator / denominator) := by
  have hpositive : (0 : Rat) < denominator := by exact_mod_cast hdenominator
  obtain ⟨hlow, hhigh⟩ := log2_bounds hnumerator
  obtain ⟨hlow', hhigh'⟩ := log2_bounds hdenominator
  have htest := shifted_le_iff numerator hdenominator
    ((numerator.log2 : Int) - (denominator.log2 : Int) - 52)
  unfold exponentOf
  dsimp only
  generalize hestimate : (numerator.log2 : Int) - (denominator.log2 : Int) - 52 = estimate at htest ⊢
  -- The quotient of the powers of two is off by one at most.
  have habove : (numerator / denominator : Rat) < 2 ^ (estimate + 53) := by
    rw [div_lt_iff₀ hpositive]
    calc (numerator : Rat) < 2 ^ ((numerator.log2 : Int) + 1) := hhigh
      _ = 2 ^ (estimate + 53) * 2 ^ (denominator.log2 : Int) := by
        rw [← zpow_add₀ two_ne_zero]
        congr 1
        omega
      _ ≤ 2 ^ (estimate + 53) * denominator := by gcongr
  have hbelow : (2 : Rat) ^ (estimate + 51) ≤ numerator / denominator := by
    rw [le_div_iff₀ hpositive]
    calc (2 : Rat) ^ (estimate + 51) * denominator
        ≤ 2 ^ (estimate + 51) * 2 ^ ((denominator.log2 : Int) + 1) := by gcongr
      _ = 2 ^ (numerator.log2 : Int) := by
        rw [← zpow_add₀ two_ne_zero]
        congr 1
        omega
      _ ≤ numerator := hlow
  have hexact : (if 0 ≤ estimate then
        if denominator <<< (estimate.toNat + 52) ≤ numerator then estimate else estimate - 1
      else if denominator <<< 52 ≤ numerator <<< (-estimate).toNat then estimate
        else estimate - 1) =
      if (2 : Rat) ^ (estimate + 52) ≤ numerator / denominator then estimate
      else estimate - 1 := by
    simp only [← htest]
    split_ifs <;> rfl
  rw [hexact]
  have hmonotone {a b : Int} (h : a ≤ b) : (2 : Rat) ^ a ≤ 2 ^ b :=
    zpow_le_zpow_right₀ one_le_two h
  split
  · next hreached =>
    refine ⟨le_max_right _ _, habove.trans_le (hmonotone (by omega)), ?_⟩
    rcases le_total estimate minExponent with hle | hle
    · exact Or.inl (max_eq_right hle)
    · exact Or.inr (by rwa [max_eq_left hle])
  · next hmissed =>
    have hless : (numerator / denominator : Rat) < 2 ^ (estimate - 1 + 53) := by
      rw [show estimate - 1 + 53 = estimate + 52 by omega]
      exact not_le.mp hmissed
    refine ⟨le_max_right _ _, hless.trans_le (hmonotone (by omega)), ?_⟩
    rcases le_total (estimate - 1) minExponent with hle | hle
    · exact Or.inl (max_eq_right hle)
    · right
      rw [max_eq_left hle, show estimate - 1 + 52 = estimate + 51 by omega]
      exact hbelow

/-! ### The nearest double -/

/-- The rounded mantissa of a number that is not less than `2 ^ 52` with some exponent is neither. -/
theorem pow_le_scaled {numerator denominator : Nat} {exponent : Int}
    (hdenominator : 0 < denominator)
    (h : (2 : Rat) ^ (exponent + 52) ≤ numerator / denominator) :
    2 ^ 52 ≤ scaled numerator denominator exponent := by
  refine (le_scaled_iff hdenominator (by norm_num)).mpr (Or.inl (lt_of_lt_of_le ?_ h))
  rw [zpow_add₀ two_ne_zero, mul_comm]
  have hpositive : (0 : Rat) < 2 ^ exponent := by positivity
  push_cast
  norm_num
  linarith

/-- The rounded mantissa of a number that is less than `2 ^ 53` with some exponent is not greater. -/
theorem scaled_le_pow {numerator denominator : Nat} {exponent : Int}
    (hdenominator : 0 < denominator)
    (h : (numerator / denominator : Rat) < 2 ^ (exponent + 53)) :
    scaled numerator denominator exponent ≤ 2 ^ 53 := by
  by_contra hmore
  have hgreater : 2 ^ 53 + 1 ≤ scaled numerator denominator exponent := by omega
  have hreaches := (le_scaled_iff hdenominator (by norm_num)).mp hgreater
  have hpositive : (0 : Rat) < 2 ^ exponent := by positivity
  rw [zpow_add₀ two_ne_zero, mul_comm] at h
  unfold Reaches at hreaches
  push_cast at hreaches
  norm_num at h hreaches
  linarith

/-- The value of a rounded quotient that is not too great. -/
theorem toRat_ofRatio {numerator denominator : Nat} (hnumerator : 0 < numerator)
    (h : exponentOf numerator denominator < maxExponent) :
    (ofRatio false numerator denominator).toRat =
      scaled numerator denominator (exponentOf numerator denominator) *
        2 ^ exponentOf numerator denominator := by
  unfold ofRatio
  rw [if_neg (by omega : ¬ numerator = 0)]
  dsimp only
  generalize exponentOf numerator denominator = exponent at h ⊢
  by_cases hcarried : scaled numerator denominator exponent = 1 <<< 53
  · -- A mantissa that is carried is `2 ^ 53`, and the next exponent gives the same value.
    simp only [hcarried, if_true, if_neg (by omega : ¬ maxExponent < exponent + 1), toRat,
      Bool.false_eq_true, if_false, magnitude_eq]
    rw [zpow_add_one₀ two_ne_zero, Nat.shiftLeft_eq, Nat.shiftLeft_eq]
    push_cast
    ring
  · simp only [hcarried, if_false, if_neg (by omega : ¬ maxExponent < exponent), toRat,
      Bool.false_eq_true, magnitude_eq]

/-- A rounded quotient with a negative sign is not positive. -/
theorem toRat_ofRatio_nonpos (numerator denominator : Nat) :
    (ofRatio true numerator denominator).toRat ≤ 0 := by
  have hnonpos (mantissa : Nat) (exponent : Int) : (finite true mantissa exponent).toRat ≤ 0 := by
    simp only [toRat, if_true, magnitude_eq, neg_nonpos]
    positivity
  unfold ofRatio
  dsimp only
  split_ifs
  · exact hnonpos _ _
  all_goals first | exact hnonpos _ _ | exact le_refl (0 : Rat)

/-- Numbers below zero are not rounded to positive doubles, nor is zero. -/
theorem nearest_nonpos {value : Rat} (h : value ≤ 0) : nearest value ≤ 0 := by
  unfold nearest ofRat
  rcases h.lt_or_eq with hless | rfl
  · rw [decide_eq_true hless]
    exact toRat_ofRatio_nonpos _ _
  · decide +kernel

/-- A positive number is a quotient of whole numbers that are positive. -/
theorem eq_natAbs_div_den {value : Rat} (h : 0 < value) :
    0 < value.num.natAbs ∧ (value.num.natAbs / value.den : Rat) = value := by
  have hnumerator : 0 < value.num := Rat.num_pos.mpr h
  refine ⟨by omega, ?_⟩
  rw [Nat.cast_natAbs, abs_of_pos hnumerator]
  exact Rat.num_div_den value

/-- The exponent of a positive number. -/
def exponentFor (value : Rat) : Int := exponentOf value.num.natAbs value.den

/-- The exponent of a positive number tells between which powers of two it lies. -/
theorem exponentFor_bounds {value : Rat} (h : 0 < value) :
    minExponent ≤ exponentFor value ∧ value < 2 ^ (exponentFor value + 53) ∧
      (exponentFor value = minExponent ∨ (2 : Rat) ^ (exponentFor value + 52) ≤ value) := by
  obtain ⟨hnumerator, hvalue⟩ := eq_natAbs_div_den h
  have hbounds := exponentOf_bounds hnumerator value.den_pos
  rwa [hvalue] at hbounds

/-- A positive number that is not too great is rounded to a mantissa with its exponent. -/
theorem exists_nearest_eq {value : Rat} (hpositive : 0 < value) (hbound : value < 2 ^ 1023) :
    ∃ mantissa : Nat, nearest value = mantissa * (2 : Rat) ^ exponentFor value ∧
      mantissa ≤ 2 ^ 53 ∧
      ((2 : Rat) ^ (exponentFor value + 52) ≤ value → 2 ^ 52 ≤ mantissa) ∧
      ∀ count, 0 < count → (count ≤ mantissa ↔ Reaches value count (exponentFor value)) := by
  obtain ⟨hnumerator, hvalue⟩ := eq_natAbs_div_den hpositive
  obtain ⟨-, habove, hbelow⟩ := exponentFor_bounds hpositive
  have hexponent : exponentFor value < maxExponent := by
    rcases hbelow with hleast | hbelow
    · rw [hleast]
      decide
    · have hpower : (2 : Rat) ^ (exponentFor value + 52) < 2 ^ (1023 : Int) :=
        hbelow.trans_lt (by exact_mod_cast hbound)
      have hless := (zpow_lt_zpow_iff_right₀ one_lt_two).mp hpower
      unfold maxExponent
      omega
  refine ⟨scaled value.num.natAbs value.den (exponentFor value), ?_, ?_, ?_, ?_⟩
  · unfold nearest ofRat
    rw [decide_eq_false (not_lt.mpr hpositive.le)]
    exact toRat_ofRatio hnumerator hexponent
  · apply scaled_le_pow value.den_pos
    rwa [hvalue]
  · intro h
    apply pow_le_scaled value.den_pos
    rwa [hvalue]
  · intro count hcount
    rw [le_scaled_iff value.den_pos hcount, hvalue]

section

variable {value : Rat} {mantissa : Nat} {exponent : Int}

/-- What is above a midpoint is rounded to the double above it or to a greater one. -/
theorem le_nearest (hbound : value < 2 ^ 1023) (hleast : minExponent ≤ exponent)
    (hmantissa : 2 ^ 52 < mantissa) (hcarry : mantissa ≤ 2 ^ 53)
    (h : Reaches value mantissa exponent) : mantissa * 2 ^ exponent ≤ nearest value := by
  have hunit : (0 : Rat) < 2 ^ exponent := by positivity
  have hmantissa' : (4503599627370497 : Rat) ≤ mantissa := by exact_mod_cast hmantissa
  have hmidpoint : ((mantissa : Rat) - 1 / 2) * 2 ^ exponent ≤ value := by
    rcases h with h | h
    · exact h.le
    · exact h.1.le
  have habove : (2 : Rat) ^ (exponent + 52) < value := by
    refine lt_of_lt_of_le ?_ hmidpoint
    rw [zpow_add₀ two_ne_zero, mul_comm]
    have hless : (2 : Rat) ^ (52 : Int) < mantissa - 1 / 2 := by
      norm_num
      linarith
    exact mul_lt_mul_of_pos_right hless hunit
  have hpositive : 0 < value := lt_trans (by positivity) habove
  obtain ⟨rounded, hnearest, -, hnormal, hreaches⟩ := exists_nearest_eq hpositive hbound
  obtain ⟨-, hless, hnot⟩ := exponentFor_bounds hpositive
  have hexponent : exponent ≤ exponentFor value := by
    have hpower := (zpow_lt_zpow_iff_right₀ (one_lt_two (α := Rat))).mp (habove.trans hless)
    omega
  rw [hnearest]
  rcases hexponent.eq_or_lt with heq | hgreater
  · rw [← heq] at hreaches ⊢
    have hcount := (hreaches mantissa (by omega)).mpr h
    gcongr
  · -- With a greater exponent all mantissas stand for greater numbers.
    have hrounded := hnormal (hnot.resolve_left (by omega))
    have hstep : (2 : Rat) * 2 ^ exponent ≤ 2 ^ exponentFor value := by
      rw [← zpow_one_add₀ two_ne_zero]
      exact zpow_le_zpow_right₀ one_le_two (by omega)
    calc (mantissa : Rat) * 2 ^ exponent ≤ (2 ^ 53 : Nat) * 2 ^ exponent := by gcongr
      _ = (2 ^ 52 : Nat) * (2 * 2 ^ exponent) := by
        push_cast
        ring
      _ ≤ rounded * 2 ^ exponentFor value := by gcongr

/-- What is below a midpoint is rounded to the double below it or to a smaller one. -/
theorem nearest_le (hbound : value < 2 ^ 1023) (hleast : minExponent ≤ exponent)
    (hmantissa : 2 ^ 52 < mantissa) (hcarry : mantissa ≤ 2 ^ 53)
    (h : ¬ Reaches value mantissa exponent) : nearest value ≤ (mantissa - 1) * 2 ^ exponent := by
  have hunit : (0 : Rat) < 2 ^ exponent := by positivity
  have hmantissa' : (4503599627370497 : Rat) ≤ mantissa := by exact_mod_cast hmantissa
  rcases le_or_gt value 0 with hvalue | hpositive
  · refine (nearest_nonpos hvalue).trans (mul_nonneg ?_ hunit.le)
    linarith
  obtain ⟨rounded, hnearest, hrounded, -, hreaches⟩ := exists_nearest_eq hpositive hbound
  obtain ⟨-, -, hnormal⟩ := exponentFor_bounds hpositive
  rw [hnearest]
  rcases lt_trichotomy (exponentFor value) exponent with hless | heq | hgreater
  · -- With a smaller exponent all mantissas stand for smaller numbers.
    have hstep : (2 : Rat) * 2 ^ exponentFor value ≤ 2 ^ exponent := by
      rw [← zpow_one_add₀ two_ne_zero]
      exact zpow_le_zpow_right₀ one_le_two (by omega)
    calc (rounded : Rat) * 2 ^ exponentFor value ≤ (2 ^ 53 : Nat) * 2 ^ exponentFor value := by
          gcongr
      _ = 4503599627370496 * (2 * 2 ^ exponentFor value) := by
        push_cast
        ring
      _ ≤ (mantissa - 1) * 2 ^ exponent := by
        apply mul_le_mul _ hstep (by positivity)
        · linarith
        · linarith
  · rw [heq] at hreaches ⊢
    have hcount : rounded + 1 ≤ mantissa := by
      have hnot := mt (hreaches mantissa (by omega)).mp h
      omega
    have hcount' : (rounded : Rat) + 1 ≤ mantissa := by exact_mod_cast hcount
    have hpred : (rounded : Rat) ≤ mantissa - 1 := by linarith
    gcongr
  · -- With a greater exponent the number is above the midpoint.
    refine absurd (Or.inl ?_) h
    have hcarry' : (mantissa : Rat) ≤ 9007199254740992 := by exact_mod_cast hcarry
    calc ((mantissa : Rat) - 1 / 2) * 2 ^ exponent < 9007199254740992 * 2 ^ exponent := by
          apply mul_lt_mul_of_pos_right _ hunit
          linarith
      _ = 2 ^ (exponent + 53) := by
        rw [zpow_add₀ two_ne_zero]
        norm_num
        ring
      _ ≤ 2 ^ (exponentFor value + 52) := zpow_le_zpow_right₀ one_le_two (by omega)
      _ ≤ value := hnormal.resolve_left (by omega)

end

/-- Numbers of a usual size are far from being too great. -/
theorem lt_pow_of_le {value : Rat} (h : value ≤ 2 ^ 32) : value < 2 ^ 1023 :=
  h.trans_lt (pow_lt_pow_right₀ one_lt_two (by decide))

/-- What is not above a power of two is not rounded to anything above it. -/
theorem nearest_le_pow {value : Rat} {power : Int} (hleast : minExponent ≤ power - 52)
    (hgreatest : power < 1023) (h : value ≤ 2 ^ power) : nearest value ≤ 2 ^ power := by
  have hsplit : (2 : Rat) ^ power = 4503599627370496 * 2 ^ (power - 52) := by
    rw [show power = 52 + (power - 52) by omega, zpow_add₀ two_ne_zero]
    norm_num
  have hunit : (0 : Rat) < 2 ^ (power - 52) := by positivity
  have hbound : value < 2 ^ 1023 := by
    have hless : (2 : Rat) ^ power < 2 ^ (1023 : Int) := zpow_lt_zpow_right₀ one_lt_two hgreatest
    exact h.trans_lt (by exact_mod_cast hless)
  have hnot : ¬ Reaches value (2 ^ 52 + 1) (power - 52) := by
    rw [hsplit] at h
    have hmidpoint : value < ((2 ^ 52 + 1 : Nat) - 1 / 2) * 2 ^ (power - 52) := by
      push_cast
      linarith
    rintro (hless | ⟨heq, -⟩)
    · exact lt_asymm hless hmidpoint
    · exact hmidpoint.ne' heq
  have hle := nearest_le hbound hleast (by norm_num) (by norm_num) hnot
  rw [hsplit]
  push_cast at hle
  norm_num at hle ⊢
  exact hle

end Conventions.Binary64
