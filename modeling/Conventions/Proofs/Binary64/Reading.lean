import Conventions.Proofs.Binary64.Shortest

/-!
# Reading doubles

The numbers in the interval of a double are rounded to it, so a decimal number that lies there is
read as this double. Whatever is read is a double, that is, its mantissa and its exponent fit.
-/

namespace Conventions.Binary64

section

variable {mantissa numerator denominator : Nat} {exponent : Int}

/-- A power of two with some more digits in front. -/
theorem two_zpow_add (exponent power : Int) :
    (2 : Rat) ^ (exponent + power) = 2 ^ power * 2 ^ exponent := by
  rw [zpow_add₀ two_ne_zero, mul_comm]

/-- Only one exponent fits a positive quotient. -/
theorem exponentOf_eq (hnumerator : 0 < numerator) (hdenominator : 0 < denominator)
    (hleast : minExponent ≤ exponent)
    (hbelow : exponent = minExponent ∨ (2 : Rat) ^ (exponent + 52) ≤ numerator / denominator)
    (habove : (numerator / denominator : Rat) < 2 ^ (exponent + 53)) :
    exponentOf numerator denominator = exponent := by
  obtain ⟨hleast', habove', hbelow'⟩ := exponentOf_bounds hnumerator hdenominator
  apply le_antisymm
  · rcases hbelow' with heq | hbelow'
    · omega
    · have hpower := (zpow_lt_zpow_iff_right₀ one_lt_two).mp (hbelow'.trans_lt habove)
      omega
  · rcases hbelow with heq | hbelow
    · omega
    · have hpower := (zpow_lt_zpow_iff_right₀ one_lt_two).mp (hbelow.trans_lt habove')
      omega

/-- A mantissa is the rounded one if the quotient reaches it and not the next one. -/
theorem scaled_eq (hdenominator : 0 < denominator) (hpositive : 0 < mantissa)
    (h : Reaches (numerator / denominator) mantissa exponent)
    (h' : ¬ Reaches (numerator / denominator) (mantissa + 1) exponent) :
    scaled numerator denominator exponent = mantissa := by
  have hle := (le_scaled_iff hdenominator hpositive).mpr h
  have hlt := mt (le_scaled_iff hdenominator (Nat.succ_pos mantissa)).mp h'
  omega

/-- A rounded quotient with the mantissa and the exponent that are known. -/
theorem ofRatio_eq (hnumerator : 0 < numerator) (hmantissa : mantissa < 2 ^ 53)
    (hexponent : exponentOf numerator denominator = exponent) (hgreatest : exponent ≤ maxExponent)
    (hscaled : scaled numerator denominator exponent = mantissa) (negative : Bool) :
    ofRatio negative numerator denominator = finite negative mantissa exponent := by
  have hcarried : ¬ mantissa = 1 <<< 53 := by
    rw [Nat.shiftLeft_eq]
    omega
  unfold ofRatio
  simp only [hexponent, hscaled, if_neg hnumerator.ne', if_neg hcarried, if_neg hgreatest.not_gt]

/-- A rounded quotient whose mantissa is carried. -/
theorem ofRatio_eq_carried (hnumerator : 0 < numerator)
    (hexponent : exponentOf numerator denominator = exponent - 1)
    (hgreatest : exponent ≤ maxExponent)
    (hscaled : scaled numerator denominator (exponent - 1) = 2 ^ 53) (negative : Bool) :
    ofRatio negative numerator denominator = finite negative (2 ^ 52) exponent := by
  have hcarried : (2 ^ 53 : Nat) = 1 <<< 53 := by decide
  unfold ofRatio
  simp only [hexponent, hscaled, if_neg hnumerator.ne', if_pos hcarried, sub_add_cancel,
    if_neg hgreatest.not_gt]
  rw [Nat.shiftLeft_eq, one_mul]

/-- The numbers in the interval of a double lie between its ends, and strictly so if it is odd. -/
theorem between_of_contains {x : Rat}
    (h : (roundingInterval mantissa exponent).contains x = true) :
    (mantissa - shareBelow mantissa exponent) * 2 ^ exponent ≤ x ∧
      x ≤ (mantissa + 1 / 2) * 2 ^ exponent ∧
      (mantissa % 2 = 0 ∨ (mantissa - shareBelow mantissa exponent) * 2 ^ exponent < x ∧
        x < (mantissa + 1 / 2) * 2 ^ exponent) := by
  rw [contains_iff] at h
  split at h
  · next heven => exact ⟨h.1, h.2, Or.inl heven⟩
  · exact ⟨h.1.le, h.2.le, Or.inr h⟩

/-- The share below a double is not more than half a unit of its last place. -/
theorem shareBelow_le (mantissa : Nat) (exponent : Int) : shareBelow mantissa exponent ≤ 1 / 2 := by
  unfold shareBelow
  split <;> norm_num

/-- The numbers in the interval of a positive double are positive. -/
theorem pos_of_contains {x : Rat} (hpositive : 0 < mantissa)
    (h : (roundingInterval mantissa exponent).contains x = true) : 0 < x := by
  have hone : (1 : Rat) ≤ mantissa := by exact_mod_cast hpositive
  have hshare := shareBelow_le mantissa exponent
  refine lt_of_lt_of_le (mul_pos ?_ ?_) (between_of_contains h).1
  · linarith
  · positivity

section

variable (hdenominator : 0 < denominator)
  (hcontains : (roundingInterval mantissa exponent).contains (numerator / denominator) = true)
include hdenominator hcontains

/-- The numerator of a quotient in the interval of a positive double is positive. -/
theorem numerator_pos (hpositive : 0 < mantissa) : 0 < numerator := by
  have hquotient := pos_of_contains hpositive hcontains
  rw [div_pos_iff_of_pos_right (by exact_mod_cast hdenominator)] at hquotient
  exact_mod_cast hquotient

/-- The mantissa of a double is the rounded one for a quotient in its interval. -/
theorem scaled_of_contains (hpositive : 0 < mantissa) :
    scaled numerator denominator exponent = mantissa := by
  have hunit : (0 : Rat) < 2 ^ exponent := by positivity
  have hshare := shareBelow_le mantissa exponent
  obtain ⟨hlower, hupper, hodd⟩ := between_of_contains hcontains
  have hmidpoint : ((mantissa : Rat) - 1 / 2) * 2 ^ exponent ≤
      (mantissa - shareBelow mantissa exponent) * 2 ^ exponent := by
    apply mul_le_mul_of_nonneg_right _ hunit.le
    linarith
  have hnext : (((mantissa + 1 : Nat) : Rat) - 1 / 2) * 2 ^ exponent =
      (mantissa + 1 / 2) * 2 ^ exponent := by
    push_cast
    ring
  apply scaled_eq hdenominator hpositive
  · rcases hodd with heven | hodd
    · rcases (hmidpoint.trans hlower).lt_or_eq with hless | heq
      · exact Or.inl hless
      · exact Or.inr ⟨heq, heven⟩
    · exact Or.inl (hmidpoint.trans_lt hodd.1)
  · rw [Reaches, hnext]
    rintro (hless | ⟨heq, heven⟩)
    · exact absurd hless (not_lt.mpr hupper)
    · rcases hodd with heven' | hodd
      · omega
      · exact absurd heq hodd.2.ne'

/-- The exponent of a double fits a quotient in its interval, unless the quotient is below a power
of two that the double is. -/
theorem exponentOf_of_contains (h : IsNormal mantissa exponent) (hpositive : 0 < mantissa)
    (hquotient : mantissa = 2 ^ 52 → minExponent < exponent →
      (2 : Rat) ^ (exponent + 52) ≤ numerator / denominator) :
    exponentOf numerator denominator = exponent := by
  have hunit : (0 : Rat) < 2 ^ exponent := by positivity
  have hshare := shareBelow_le mantissa exponent
  obtain ⟨hlower, hupper, -⟩ := between_of_contains hcontains
  refine exponentOf_eq (numerator_pos hdenominator hcontains hpositive) hdenominator h.least ?_ ?_
  · rcases h.least.eq_or_lt with hleast | hless
    · exact Or.inl hleast.symm
    · right
      rcases (h.normal.resolve_left hless.ne').eq_or_lt with heq | hmore
      · exact hquotient heq.symm hless
      · have hmore' : (4503599627370497 : Rat) ≤ mantissa := by exact_mod_cast hmore
        rw [two_zpow_add]
        refine le_trans (mul_le_mul_of_nonneg_right ?_ hunit.le) hlower
        norm_num
        linarith
  · have hmantissa : (mantissa : Rat) + 1 ≤ 9007199254740992 := by
      exact_mod_cast h.mantissa_lt
    rw [two_zpow_add]
    refine lt_of_le_of_lt hupper (mul_lt_mul_of_pos_right ?_ hunit)
    norm_num
    linarith

/-- Below a power of two the gap is half as wide, and the mantissa of a quotient there is
carried. -/
theorem ofRatio_of_below (hmantissa : mantissa = 2 ^ 52) (hless : minExponent < exponent)
    (hgreatest : exponent ≤ maxExponent)
    (hquotient : (numerator / denominator : Rat) < 2 ^ (exponent + 52)) (negative : Bool) :
    ofRatio negative numerator denominator = finite negative mantissa exponent := by
  subst hmantissa
  have hnumerator : 0 < numerator := numerator_pos hdenominator hcontains (by decide)
  have hunit : (0 : Rat) < 2 ^ exponent := by positivity
  obtain ⟨hlower, -⟩ := between_of_contains hcontains
  rw [shareBelow, if_pos ⟨rfl, hless⟩] at hlower
  push_cast at hlower
  have hexponent : exponentOf numerator denominator = exponent - 1 := by
    refine exponentOf_eq hnumerator hdenominator (by omega) (Or.inr ?_) ?_
    · rw [show exponent - 1 + 52 = exponent + 51 by ring, two_zpow_add]
      norm_num at hlower ⊢
      linarith
    · rwa [show exponent - 1 + 53 = exponent + 52 by ring]
  refine ofRatio_eq_carried hnumerator hexponent hgreatest (le_antisymm ?_ ?_) negative
  · apply scaled_le_pow hdenominator
    rwa [show exponent - 1 + 53 = exponent + 52 by ring]
  · have hhalf : (2 : Rat) ^ (exponent - 1) = 2 ^ exponent / 2 := zpow_sub_one₀ two_ne_zero _
    rw [le_scaled_iff hdenominator (by norm_num), Reaches, hhalf]
    push_cast
    rw [← le_iff_lt_or_eq.trans (or_congr_right (by simp))]
    linarith

/-- A quotient in the interval of a double is rounded to it. -/
theorem ofRatio_of_contains (h : IsNormal mantissa exponent) (hpositive : 0 < mantissa)
    (negative : Bool) :
    ofRatio negative numerator denominator = finite negative mantissa exponent := by
  by_cases hbelow : (mantissa = 2 ^ 52 ∧ minExponent < exponent) ∧
      (numerator / denominator : Rat) < 2 ^ (exponent + 52)
  · obtain ⟨⟨hmantissa, hless⟩, hquotient⟩ := hbelow
    exact ofRatio_of_below hdenominator hcontains hmantissa hless h.greatest hquotient negative
  · have hexponent := exponentOf_of_contains hdenominator hcontains h hpositive
      fun hmantissa hless => not_lt.mp fun hquotient => hbelow ⟨⟨hmantissa, hless⟩, hquotient⟩
    exact ofRatio_eq (numerator_pos hdenominator hcontains hpositive) h.mantissa_lt hexponent
      h.greatest (scaled_of_contains hdenominator hcontains hpositive) negative

end

end

/-! ### What is a double -/

/-- A finite double has a mantissa and an exponent that fit. -/
def IsDouble : Binary64 → Prop
  | finite _ mantissa exponent => IsNormal mantissa exponent
  | infinite _ | nan => True

/-- Zero is a double. -/
theorem isNormal_zero : IsNormal 0 minExponent := ⟨by decide, le_rfl, by decide, Or.inl rfl⟩

/-- A rounded quotient is a double. -/
theorem isDouble_ofRatio (negative : Bool) (numerator : Nat) {denominator : Nat}
    (hdenominator : 0 < denominator) : (ofRatio negative numerator denominator).IsDouble := by
  unfold ofRatio
  split
  · exact isNormal_zero
  · next hzero =>
    obtain ⟨hleast, habove, hbelow⟩ := exponentOf_bounds (Nat.pos_of_ne_zero hzero) hdenominator
    have hmantissa := scaled_le_pow hdenominator habove
    have hcarry : (1 <<< 53 : Nat) = 2 ^ 53 := by decide
    dsimp only
    split
    · split
      · trivial
      · next hgreatest =>
        exact ⟨by decide, by omega, by omega, Or.inr (by decide)⟩
    · next hcarried =>
      rw [hcarry] at hcarried
      split
      · trivial
      · next hgreatest =>
        exact ⟨by omega, hleast, by omega, hbelow.imp_right (pow_le_scaled hdenominator)⟩

/-- A decimal number is read as a double. -/
theorem isDouble_ofDecimal (negative : Bool) (digits : Nat) (power : Int) :
    (ofDecimal negative digits power).IsDouble := by
  unfold ofDecimal
  dsimp only
  split_ifs
  · exact isNormal_zero
  · trivial
  · exact isNormal_zero
  · exact isDouble_ofRatio _ _ Nat.one_pos
  · exact isDouble_ofRatio _ _ (Nat.pow_pos (by decide))

/-! ### Decimal numbers -/

section

variable {mantissa digits : Nat} {exponent power : Int}

/-- The digits of a positive number are as many as the powers of ten it lies between tell. -/
theorem decimalChars_bounds (h : 0 < digits) :
    (10 : Rat) ^ ((decimalChars digits).length - 1 : Int) ≤ digits ∧
      (digits : Rat) < 10 ^ ((decimalChars digits).length : Int) := by
  have hlength : 0 < (decimalChars digits).length := Nat.length_toDigits_pos
  constructor
  · by_cases hone : (decimalChars digits).length = 1
    · rw [hone]
      norm_num
      exact h
    · have hmore := mt (Nat.length_toDigits_le_iff (b := 10) (n := digits) (by decide)
        (show 0 < (decimalChars digits).length - 1 by omega)).mpr (by
          unfold decimalChars at hlength hone ⊢
          omega)
      rw [show ((decimalChars digits).length - 1 : Int) =
        ((decimalChars digits).length - 1 : Nat) by omega, zpow_natCast]
      exact_mod_cast not_lt.mp hmore
  · have hless := (Nat.length_toDigits_le_iff (b := 10) (n := digits) (by decide) hlength).mp le_rfl
    rw [zpow_natCast]
    exact_mod_cast hless

section

variable (h : IsNormal mantissa exponent)
  (hcontains : (roundingInterval mantissa exponent).contains (digits * 10 ^ power) = true)
include h hcontains

/-- A decimal number in the interval of a double has a digit that is not too small. -/
theorem least_size (hpositive : 0 < mantissa) (hdigits : 0 < digits) :
    -400 ≤ power + (decimalChars digits).length := by
  by_contra hsmall
  obtain ⟨-, hhigh⟩ := decimalChars_bounds hdigits
  obtain ⟨hlower, -⟩ := between_of_contains hcontains
  have hshare := shareBelow_le mantissa exponent
  have hone : (1 : Rat) ≤ mantissa := by exact_mod_cast hpositive
  have hexponent : (-1075 : Int) ≤ exponent - 1 := by
    have hleast := h.least
    unfold minExponent at hleast
    omega
  have hless : (2 : Rat) ^ (-1075 : Int) < 10 ^ (-401 : Int) := by
    calc (2 : Rat) ^ (-1075 : Int) ≤ 2 ^ (exponent - 1) :=
          zpow_le_zpow_right₀ one_le_two hexponent
      _ = 1 / 2 * 2 ^ exponent := by
          rw [zpow_sub_one₀ two_ne_zero]
          ring
      _ ≤ (mantissa - shareBelow mantissa exponent) * 2 ^ exponent := by
          apply mul_le_mul_of_nonneg_right _ (by positivity)
          linarith
      _ ≤ digits * 10 ^ power := hlower
      _ < 10 ^ ((decimalChars digits).length : Int) * 10 ^ power :=
          mul_lt_mul_of_pos_right hhigh (by positivity)
      _ = 10 ^ (power + (decimalChars digits).length) := by
          rw [← zpow_add₀ (by norm_num), add_comm]
      _ ≤ 10 ^ (-401 : Int) := zpow_le_zpow_right₀ (by norm_num) (by omega)
  exact absurd hless (not_lt.mpr (ten_zpow_le (by decide) (by decide)))

/-- A decimal number in the interval of a double has no digit that is too great. -/
theorem size_le (hdigits : 0 < digits) : power + (decimalChars digits).length ≤ 400 := by
  by_contra hgreat
  obtain ⟨hlow, -⟩ := decimalChars_bounds hdigits
  obtain ⟨-, hupper, -⟩ := between_of_contains hcontains
  have hmantissa : (mantissa : Rat) + 1 ≤ 2 ^ 53 := by exact_mod_cast h.mantissa_lt
  have hexponent : exponent + 53 ≤ 1024 := by
    have hgreatest := h.greatest
    unfold maxExponent at hgreatest
    omega
  have hless : (10 : Rat) ^ (400 : Int) < 2 ^ (1024 : Int) := by
    calc (10 : Rat) ^ (400 : Int) ≤ 10 ^ (power + (decimalChars digits).length - 1) :=
          zpow_le_zpow_right₀ (by norm_num) (by omega)
      _ = 10 ^ ((decimalChars digits).length - 1 : Int) * 10 ^ power := by
          rw [← zpow_add₀ (by norm_num)]
          congr 1
          ring
      _ ≤ digits * 10 ^ power := mul_le_mul_of_nonneg_right hlow (by positivity)
      _ ≤ (mantissa + 1 / 2) * 2 ^ exponent := hupper
      _ < 2 ^ 53 * 2 ^ exponent := by
          apply mul_lt_mul_of_pos_right _ (by positivity)
          linarith
      _ = 2 ^ (exponent + 53) := (two_zpow_add exponent 53).symm
      _ ≤ 2 ^ (1024 : Int) := zpow_le_zpow_right₀ one_le_two hexponent
  exact absurd hless (not_lt.mpr (two_zpow_le (by decide) (by decide)))

/-- A decimal number in the interval of a double is read as this double. -/
theorem ofDecimal_of_contains (hpositive : 0 < mantissa) (negative : Bool) :
    ofDecimal negative digits power = finite negative mantissa exponent := by
  have hdigits : 0 < digits := by
    refine Nat.pos_of_ne_zero ?_
    rintro rfl
    simpa using pos_of_contains hpositive hcontains
  have hleast := least_size h hcontains hpositive hdigits
  have hgreatest := size_le h hcontains hdigits
  unfold ofDecimal
  simp only [if_neg hdigits.ne', if_neg hleast.not_gt, if_neg hgreatest.not_gt]
  split
  · next hpower =>
    refine ofRatio_of_contains Nat.one_pos ?_ h hpositive negative
    obtain ⟨n, rfl⟩ := Int.eq_ofNat_of_zero_le hpower
    simpa using hcontains
  · next hpower =>
    refine ofRatio_of_contains (Nat.pow_pos (by decide)) ?_ h hpositive negative
    obtain ⟨n, hn⟩ := Int.eq_ofNat_of_zero_le (show 0 ≤ -power by omega)
    obtain rfl : power = -n := by omega
    simpa [div_eq_mul_inv] using hcontains

end

end

end Conventions.Binary64
