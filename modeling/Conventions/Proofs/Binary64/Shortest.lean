import Conventions.Binary64.Decimal
import Conventions.Proofs.Binary64.Rounding

/-!
# The digits of a double

The digits that are written for a double stand for a number that is rounded to it. They are
searched on finer and finer decimal grids, and with seventeen digits the grid is finer than the
gap between doubles, so that one of the two points next to the double always will do.
-/

namespace Conventions.Binary64

/-! ### Powers of ten and of two -/

/-- A power of ten as a number. -/
theorem powerOfTen_eq (k : Int) : powerOfTen k = (10 : Rat) ^ k := by
  unfold powerOfTen
  split
  · next h =>
    obtain ⟨n, rfl⟩ := Int.eq_ofNat_of_zero_le h
    simp
  · next h =>
    obtain ⟨n, hn⟩ := Int.eq_ofNat_of_zero_le (show 0 ≤ -k by omega)
    obtain rfl : k = -n := by omega
    simp [Rat.mkRat_eq_div]

/-- The test for a power of ten compares with it. -/
theorem reaches_iff {value : Rat} {k : Int} : reaches value k = true ↔ (10 : Rat) ^ k ≤ value := by
  unfold reaches
  split
  · next h =>
    obtain ⟨n, rfl⟩ := Int.eq_ofNat_of_zero_le h
    simp
  · next h =>
    obtain ⟨n, hn⟩ := Int.eq_ofNat_of_zero_le (show 0 ≤ -k by omega)
    obtain rfl : k = -n := by omega
    have hpower : (0 : Rat) < 10 ^ n := by positivity
    simp [inv_le_iff_one_le_mul₀ hpower]

/-- Three binary digits are less than a decimal one, and thirteen decimal digits are more than
forty-three binary ones. -/
theorem ten_zpow_le {k power : Int} (h : 10 * k ≤ 3 * power) (h' : 43 * k ≤ 13 * power) :
    (10 : Rat) ^ k ≤ 2 ^ power := by
  rcases le_or_gt 0 power with hpower | hpower
  · refine (pow_le_pow_iff_left₀ (by positivity) (by positivity) (show 10 ≠ 0 by decide)).mp ?_
    calc ((10 : Rat) ^ k) ^ 10 = 10 ^ (10 * k) := by
          rw [mul_comm, zpow_mul]
          rfl
      _ ≤ 10 ^ (3 * power) := zpow_le_zpow_right₀ (by norm_num) h
      _ = ((10 : Rat) ^ 3) ^ power := by
          rw [zpow_mul]
          rfl
      _ ≤ ((2 : Rat) ^ 10) ^ power := zpow_le_zpow_left₀ hpower (by norm_num) (by norm_num)
      _ = (2 ^ power) ^ 10 := by
          rw [← zpow_natCast, ← zpow_natCast, ← zpow_mul, ← zpow_mul, mul_comm]
  · refine (pow_le_pow_iff_left₀ (by positivity) (by positivity) (show 43 ≠ 0 by decide)).mp ?_
    have hneg : (0 : Int) ≤ -power := by omega
    calc ((10 : Rat) ^ k) ^ 43 = 10 ^ (43 * k) := by
          rw [mul_comm, zpow_mul]
          rfl
      _ ≤ 10 ^ (13 * power) := zpow_le_zpow_right₀ (by norm_num) h'
      _ = (((10 : Rat) ^ 13) ^ (-power))⁻¹ := by
          rw [zpow_neg, inv_inv, zpow_mul]
          rfl
      _ ≤ (((2 : Rat) ^ 43) ^ (-power))⁻¹ :=
          inv_anti₀ (by positivity) (zpow_le_zpow_left₀ hneg (by norm_num) (by norm_num))
      _ = (2 ^ power) ^ 43 := by
          rw [zpow_neg, inv_inv, ← zpow_natCast, ← zpow_natCast, ← zpow_mul, ← zpow_mul, mul_comm]

/-- The same the other way round. -/
theorem two_zpow_le {k power : Int} (h : 3 * power ≤ 10 * k) (h' : 13 * power ≤ 43 * k) :
    (2 : Rat) ^ power ≤ 10 ^ k := by
  have hinverse : (10 : Rat) ^ (-k) ≤ 2 ^ (-power) := ten_zpow_le (by omega) (by omega)
  rw [zpow_neg, zpow_neg] at hinverse
  exact (inv_le_inv₀ (by positivity) (by positivity)).mp hinverse

/-! ### The place of the decimal point -/

/-- The search for the decimal point finds it if it starts below it and is not given up too
early. -/
theorem decimalPoint_bounds {value : Rat} {k : Int} {fuel : Nat} (h : (10 : Rat) ^ (k - 1) ≤ value)
    (h' : value < 10 ^ (k + fuel)) :
    (10 : Rat) ^ (decimalPoint value k fuel - 1) ≤ value ∧
      value < 10 ^ decimalPoint value k fuel := by
  induction fuel generalizing k with
  | zero => exact ⟨h, by simpa [decimalPoint] using h'⟩
  | succ fuel ih =>
    unfold decimalPoint
    split
    · next hreaches =>
      apply ih
      · simpa using reaches_iff.mp hreaches
      · rwa [show k + 1 + (fuel : Int) = k + (fuel + 1 : Nat) by push_cast; ring]
    · next hreaches =>
      exact ⟨h, not_le.mp fun hle => hreaches (reaches_iff.mpr hle)⟩

/-- A mantissa and an exponent as a finite double has them. -/
structure IsNormal (mantissa : Nat) (exponent : Int) : Prop where
  mantissa_lt : mantissa < 2 ^ 53
  least : minExponent ≤ exponent
  greatest : exponent ≤ maxExponent
  normal : exponent = minExponent ∨ 2 ^ 52 ≤ mantissa

section

variable {mantissa : Nat} {exponent : Int}

/-- The point from which on the decimal point of a double is searched. -/
def guess (mantissa : Nat) (exponent : Int) : Int :=
  ((mantissa.log2 : Int) + exponent) * 30103 / 100000 - 1

/-- The logarithm of a double lies between those of the least and of the greatest one. -/
theorem IsNormal.log2_bounds (h : IsNormal mantissa exponent) (hpositive : 0 < mantissa) :
    -1074 ≤ (mantissa.log2 : Int) + exponent ∧ (mantissa.log2 : Int) + exponent ≤ 1023 := by
  have hless : mantissa.log2 < 53 := (Nat.log2_lt (by omega)).mpr h.mantissa_lt
  have hleast := h.least
  have hgreatest := h.greatest
  unfold minExponent at hleast
  unfold maxExponent at hgreatest
  omega

/-- A double lies between the powers of ten that its decimal point tells. -/
theorem IsNormal.point_bounds (h : IsNormal mantissa exponent) (hpositive : 0 < mantissa) :
    (10 : Rat) ^ (decimalPoint (magnitude mantissa exponent) (guess mantissa exponent) 4 - 1) ≤
        magnitude mantissa exponent ∧
      magnitude mantissa exponent <
        10 ^ decimalPoint (magnitude mantissa exponent) (guess mantissa exponent) 4 := by
  obtain ⟨hleast, hgreatest⟩ := h.log2_bounds hpositive
  obtain ⟨hlow, hhigh⟩ := Binary64.log2_bounds hpositive
  have hunit : (0 : Rat) < 2 ^ exponent := by positivity
  apply decimalPoint_bounds
  · calc (10 : Rat) ^ (guess mantissa exponent - 1) ≤ 2 ^ ((mantissa.log2 : Int) + exponent) := by
          unfold guess
          apply ten_zpow_le <;> omega
      _ = 2 ^ (mantissa.log2 : Int) * 2 ^ exponent := zpow_add₀ two_ne_zero _ _
      _ ≤ mantissa * 2 ^ exponent := by gcongr
      _ = magnitude mantissa exponent := (magnitude_eq _ _).symm
  · calc magnitude mantissa exponent = mantissa * 2 ^ exponent := magnitude_eq _ _
      _ < 2 ^ ((mantissa.log2 : Int) + 1) * 2 ^ exponent := by gcongr
      _ = 2 ^ ((mantissa.log2 : Int) + exponent + 1) := by
          rw [← zpow_add₀ two_ne_zero]
          congr 1
          ring
      _ ≤ 10 ^ (guess mantissa exponent + (4 : Nat)) := by
          unfold guess
          apply two_zpow_le <;> push_cast <;> omega

end

/-! ### Points of a decimal grid -/

/-- The number that digits stand for. -/
def Digits.value (d : Digits) : Rat := d.digits * 10 ^ (d.point - d.count)

/-- The digits are as many as they are said to be, and the first one is not zero. -/
structure Digits.IsCounted (d : Digits) : Prop where
  positive : 0 < d.count
  least : 10 ^ (d.count - 1) ≤ d.digits
  greatest : d.digits < 10 ^ d.count

section

variable {interval : Interval} {exact : Rat} {unit : Int}

/-- The point of the grid that is next to a number from below. -/
def gridPoint (exact : Rat) (unit : Int) : Nat := (exact / 10 ^ unit).floor.toNat

/-- A number lies between its next points of the grid. -/
theorem gridPoint_bounds (h : 0 ≤ exact) (unit : Int) :
    gridPoint exact unit * (10 : Rat) ^ unit ≤ exact ∧
      exact < (gridPoint exact unit + 1 : Nat) * (10 : Rat) ^ unit := by
  have hunit : (0 : Rat) < 10 ^ unit := by positivity
  have hnonneg : 0 ≤ (exact / 10 ^ unit).floor := by
    rw [Rat.le_floor_iff]
    exact_mod_cast div_nonneg h hunit.le
  have hcast : ((gridPoint exact unit : Nat) : Rat) = (exact / 10 ^ unit).floor := by
    rw [gridPoint]
    exact_mod_cast congrArg (Int.cast : Int → Rat) (Int.toNat_of_nonneg hnonneg)
  have hle := Rat.floor_le (exact / 10 ^ unit)
  have hlt := Rat.lt_floor_add_one (exact / 10 ^ unit)
  rw [le_div_iff₀ hunit] at hle
  rw [div_lt_iff₀ hunit] at hlt
  push_cast at hlt ⊢
  rw [hcast]
  exact ⟨hle, hlt⟩

/-- The point that is taken on a grid is one of the two next to the number, and it lies in the
interval. -/
theorem onGrid?_eq_some {digits : Nat} (h : onGrid? interval exact unit = some digits) :
    interval.contains (digits * 10 ^ unit) = true ∧
      (digits = gridPoint exact unit ∨ digits = gridPoint exact unit + 1) := by
  unfold onGrid? at h
  simp only [powerOfTen_eq] at h
  rw [← gridPoint] at h
  generalize gridPoint exact unit = low at h ⊢
  cases hbelow : interval.contains (low * 10 ^ unit) && low != 0 <;>
    cases habove : interval.contains ((low + 1 : Nat) * 10 ^ unit) <;>
    simp only [hbelow, habove] at h
  case false.true =>
    cases h
    exact ⟨habove, Or.inr rfl⟩
  case true.false =>
    cases h
    exact ⟨(Bool.and_eq_true_iff.mp hbelow).1, Or.inl rfl⟩
  case true.true =>
    have hbelow := (Bool.and_eq_true_iff.mp hbelow).1
    split_ifs at h <;> cases h
    all_goals first | exact ⟨hbelow, Or.inl rfl⟩ | exact ⟨habove, Or.inr rfl⟩
  case false.false => cases h

/-- If no point is taken on a grid, neither of the two next to the number would do. -/
theorem onGrid?_eq_none (h : onGrid? interval exact unit = none) (hlow : gridPoint exact unit ≠ 0) :
    interval.contains (gridPoint exact unit * 10 ^ unit) = false ∧
      interval.contains ((gridPoint exact unit + 1 : Nat) * 10 ^ unit) = false := by
  unfold onGrid? at h
  simp only [powerOfTen_eq] at h
  rw [← gridPoint] at h
  generalize gridPoint exact unit = low at h hlow ⊢
  have hlow : (low != 0) = true := by simpa using hlow
  rw [hlow, Bool.and_true] at h
  cases hbelow : interval.contains (low * 10 ^ unit) <;>
    cases habove : interval.contains ((low + 1 : Nat) * 10 ^ unit) <;>
    simp only [hbelow, habove] at h
  case false.false => exact ⟨rfl, rfl⟩
  case false.true => cases h
  case true.false => cases h
  case true.true => split_ifs at h

end

section

variable {interval : Interval} {exact : Rat} {point : Int} {count : Nat}
  (hpoint : (10 : Rat) ^ (point - 1) ≤ exact ∧ exact < 10 ^ point)
include hpoint

/-- On the grid of a number of digits, the point below a number has as many digits. -/
theorem gridPoint_digits (hcount : 0 < count) :
    10 ^ (count - 1) ≤ gridPoint exact (point - count) ∧
      gridPoint exact (point - count) < 10 ^ count := by
  have hunit : (0 : Rat) < 10 ^ (point - count) := by positivity
  have hnonneg : 0 ≤ exact := le_trans (by positivity) hpoint.1
  obtain ⟨hle, hlt⟩ := gridPoint_bounds hnonneg (point - count)
  constructor
  · have hless : (10 : Rat) ^ (count - 1) * 10 ^ (point - count) <
        (gridPoint exact (point - count) + 1 : Nat) * 10 ^ (point - count) := by
      refine lt_of_le_of_lt (le_of_eq ?_) (hpoint.1.trans_lt hlt)
      rw [← zpow_natCast, ← zpow_add₀ (by norm_num)]
      congr 1
      omega
    have hless := lt_of_mul_lt_mul_right hless hunit.le
    have hless : 10 ^ (count - 1) < gridPoint exact (point - count) + 1 := by exact_mod_cast hless
    omega
  · have hless : (gridPoint exact (point - count) : Rat) * 10 ^ (point - count) <
        10 ^ count * 10 ^ (point - count) := by
      refine lt_of_lt_of_eq (hle.trans_lt hpoint.2) ?_
      rw [← zpow_natCast, ← zpow_add₀ (by norm_num)]
      congr 1
      omega
    exact_mod_cast lt_of_mul_lt_mul_right hless hunit.le

/-- The digits that are taken from a point of a grid. -/
theorem taken_spec {digits : Nat} (hcount : 0 < count)
    (h : onGrid? interval exact (point - count) = some digits) {d : Digits}
    (hd : d = if digits = Nat.pow 10 count then ⟨1, 1, point + 1⟩ else ⟨digits, count, point⟩) :
    d.IsCounted ∧ interval.contains d.value = true := by
  obtain ⟨hleast, hgreatest⟩ := gridPoint_digits hpoint hcount
  obtain ⟨hcontains, hdigits⟩ := onGrid?_eq_some h
  by_cases hcarry : digits = Nat.pow 10 count
  · -- The point above is a power of ten, which is shown with one digit.
    rw [if_pos hcarry] at hd
    subst hd
    refine ⟨⟨Nat.one_pos, le_refl 1, by norm_num⟩, ?_⟩
    have hvalue : (Digits.mk 1 1 (point + 1)).value = digits * 10 ^ (point - count) := by
      rw [Digits.value, hcarry, Nat.pow_eq]
      push_cast
      rw [← zpow_natCast, ← zpow_add₀ (by norm_num), one_mul]
      congr 1
      ring
    rwa [hvalue]
  · rw [if_neg hcarry] at hd
    subst hd
    rw [Nat.pow_eq] at hcarry
    exact ⟨⟨hcount, by dsimp only; omega, by dsimp only; omega⟩, hcontains⟩

/-- With one digit more each time, a point is taken as soon as a grid has one in the interval. -/
theorem shortestFrom_spec {fuel : Nat} (hcount : 0 < count)
    (hlast : onGrid? interval exact (point - (count + fuel : Nat)) ≠ none) :
    (shortestFrom interval exact point count (fuel + 1)).IsCounted ∧
      interval.contains (shortestFrom interval exact point count (fuel + 1)).value = true := by
  induction fuel generalizing count with
  | zero =>
    rw [shortestFrom]
    cases hgrid : onGrid? interval exact (point - count) with
    | some digits => exact taken_spec hpoint hcount hgrid rfl
    | none => exact absurd hgrid hlast
  | succ fuel ih =>
    rw [shortestFrom]
    cases hgrid : onGrid? interval exact (point - count) with
    | some digits => exact taken_spec hpoint hcount hgrid rfl
    | none =>
      refine ih (Nat.succ_pos _) ?_
      rwa [show count + 1 + fuel = count + (fuel + 1) by omega]

end

section

variable {mantissa : Nat} {exponent : Int}

/-- How far below a double the numbers begin that are rounded to it, in units of its last place. -/
def shareBelow (mantissa : Nat) (exponent : Int) : Rat :=
  if mantissa = 2 ^ 52 ∧ minExponent < exponent then 1 / 4 else 1 / 2

/-- The numbers in the interval of a double, in units of its last place. -/
theorem contains_iff {x : Rat} : (roundingInterval mantissa exponent).contains x = true ↔
    if mantissa % 2 = 0 then
      (mantissa - shareBelow mantissa exponent) * 2 ^ exponent ≤ x ∧
        x ≤ (mantissa + 1 / 2) * 2 ^ exponent
    else
      (mantissa - shareBelow mantissa exponent) * 2 ^ exponent < x ∧
        x < (mantissa + 1 / 2) * 2 ^ exponent := by
  have hlower : (roundingInterval mantissa exponent).lower =
      (mantissa - shareBelow mantissa exponent) * 2 ^ exponent := by
    unfold roundingInterval shareBelow
    simp only [magnitude_eq, show (1 <<< 52 : Nat) = 2 ^ 52 from rfl]
    rw [zpow_sub_one₀ two_ne_zero]
    split <;> push_cast <;> ring
  have hupper : (roundingInterval mantissa exponent).upper =
      (mantissa + 1 / 2) * 2 ^ exponent := by
    unfold roundingInterval
    simp only [magnitude_eq]
    rw [zpow_sub_one₀ two_ne_zero]
    push_cast
    ring
  have hclosed : (roundingInterval mantissa exponent).closed = decide (mantissa % 2 = 0) := rfl
  unfold Interval.contains
  rw [hlower, hupper, hclosed]
  split <;> simp_all

/-- The numbers between the ends of the interval are in it, whether the ends are or not. -/
theorem contains_of_between {x : Rat}
    (hlower : (mantissa - shareBelow mantissa exponent) * 2 ^ exponent < x)
    (hupper : x < (mantissa + 1 / 2) * 2 ^ exponent) :
    (roundingInterval mantissa exponent).contains x = true := by
  rw [contains_iff]
  split
  · exact ⟨hlower.le, hupper.le⟩
  · exact ⟨hlower, hupper⟩

/-- With seventeen digits the grid has a point in the interval of every double. -/
theorem seventeen_digits (h : IsNormal mantissa exponent) {point : Int}
    (hpoint : (10 : Rat) ^ (point - 1) ≤ magnitude mantissa exponent ∧
      magnitude mantissa exponent < 10 ^ point) :
    onGrid? (roundingInterval mantissa exponent) (magnitude mantissa exponent)
      (point - (17 : Nat)) ≠ none := by
  intro hnone
  obtain ⟨hleast, -⟩ := gridPoint_digits hpoint (show 0 < 17 by decide)
  obtain ⟨hbelow, habove⟩ := onGrid?_eq_none hnone (by omega)
  have hnonneg : 0 ≤ magnitude mantissa exponent := le_trans (by positivity) hpoint.1
  obtain ⟨hle, hlt⟩ := gridPoint_bounds hnonneg (point - (17 : Nat))
  generalize gridPoint (magnitude mantissa exponent) (point - (17 : Nat)) = low at *
  rw [magnitude_eq] at hpoint hle hlt
  have hstep : (10 : Rat) ^ (point - (17 : Nat)) * 10 ^ 16 ≤ mantissa * 2 ^ exponent := by
    refine le_trans (le_of_eq ?_) hpoint.1
    rw [← zpow_natCast (10 : Rat) 16, ← zpow_add₀ (by norm_num)]
    congr 1
    omega
  have hunit : (0 : Rat) < 2 ^ exponent := by positivity
  have hmantissa : (mantissa : Rat) * 2 ^ exponent ≤ 2 ^ 53 * 2 ^ exponent := by
    have hless : (mantissa : Rat) ≤ 2 ^ 53 := by exact_mod_cast h.mantissa_lt.le
    gcongr
  push_cast at hlt habove
  generalize (10 : Rat) ^ (point - (17 : Nat)) = step at *
  rw [← Bool.not_eq_true] at hbelow habove
  by_cases hpower : mantissa = 2 ^ 52 ∧ minExponent < exponent
  · -- Behind a power of two the step is less than half a gap, so the point above is near enough.
    refine habove (contains_of_between ?_ ?_)
    · rw [shareBelow, if_pos hpower]
      linarith
    · have hvalue : (mantissa : Rat) = 2 ^ 52 := by exact_mod_cast hpower.1
      rw [hvalue] at hstep hle ⊢
      linarith
  · -- Otherwise it is less than a gap, and one of the points is less than half a gap away.
    have hshare : shareBelow mantissa exponent = 1 / 2 := if_neg hpower
    rcases le_or_gt (mantissa * 2 ^ exponent - low * step) (step / 2) with hnear | hfar
    · refine hbelow (contains_of_between ?_ ?_)
      · rw [hshare]
        linarith
      · linarith
    · refine habove (contains_of_between ?_ ?_)
      · rw [hshare]
        linarith
      · linarith

/-- The digits that are written for a double are as many as they are said to be, and stand for a
number in its interval. -/
theorem shortest_spec (h : IsNormal mantissa exponent) (hpositive : 0 < mantissa) :
    (shortest mantissa exponent).IsCounted ∧
      (roundingInterval mantissa exponent).contains (shortest mantissa exponent).value = true := by
  have hpoint := h.point_bounds hpositive
  exact shortestFrom_spec hpoint Nat.one_pos (seventeen_digits h hpoint)

end

end Conventions.Binary64
