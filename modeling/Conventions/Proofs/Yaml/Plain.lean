import Conventions.Proofs.Binary64.Reading
import Conventions.Yaml.Plain

/-!
# Numbers in plain scalars

The text of a number is read as this number. So no two numbers have one text, and a text that is
no number has the text of a number only if it is written in quotes.
-/

namespace Conventions

namespace Yaml.Plain

open Binary64

/-! ### Digits -/

/-- The decimal digits are the characters between the first and the last of them. -/
theorem isDecimal_iff {c : Char} : isDecimal c = true ↔ c.isDigit = true := by
  rw [Char.isDigit_iff_toNat]
  simp only [isDecimal, Bool.and_eq_true, decide_eq_true_eq, Char.le_def, UInt32.le_iff_toNat_le]
  rfl

/-- The text of a whole number consists of digits. -/
theorem isDecimal_of_mem {n : Nat} {c : Char} (h : c ∈ decimalChars n) : isDecimal c = true :=
  isDecimal_iff.mpr (Nat.isDigit_of_mem_toDigits (by decide) (by decide) h)

/-- A digit has the value that it adds to a number. -/
theorem digit?_of_isDecimal {c : Char} (h : isDecimal c = true) :
    digit? c = some (c.toNat - '0'.toNat) ∧ c.toNat - '0'.toNat < 10 := by
  have hbounds := Char.isDigit_iff_toNat.mp (isDecimal_iff.mp h)
  unfold isDecimal at h
  rw [Bool.and_eq_true, decide_eq_true_eq, decide_eq_true_eq] at h
  refine ⟨if_pos h, ?_⟩
  have hnine : '9'.toNat = '0'.toNat + 9 := by decide
  omega

/-- What has a value below ten is a decimal digit. -/
theorem isDecimal_of_digit? {c : Char} {digit : Nat} (h : digit? c = some digit)
    (hless : digit < 10) : isDecimal c = true := by
  unfold digit? at h
  split_ifs at h with hdecimal
  · simpa [isDecimal] using hdecimal
  all_goals
    have hdigit := Option.some.inj h
    omega

/-- Digits behind a number are read as those that follow it. -/
theorem digitsFrom?_of_isDecimal {text : List Char} (h : ∀ c ∈ text, isDecimal c = true)
    (value : Nat) : digitsFrom? 10 value text = some (Nat.ofDigitChars 10 text value) := by
  induction text generalizing value with
  | nil => rfl
  | cons c rest ih =>
    obtain ⟨hfirst, hrest⟩ := List.forall_mem_cons.mp h
    obtain ⟨hdigit, hless⟩ := digit?_of_isDecimal hfirst
    rw [digitsFrom?, hdigit, Nat.ofDigitChars_cons]
    simp only [if_pos hless]
    exact ih hrest _

/-- Digits are read as the number they stand for. -/
theorem digits?_of_isDecimal {text : List Char} (h : ∀ c ∈ text, isDecimal c = true)
    (hne : text ≠ []) : digits? 10 text = some (Nat.ofDigitChars 10 text 0) := by
  rw [digits?, if_neg (by simpa using hne), digitsFrom?_of_isDecimal h]

/-- Only decimal digits are read as a decimal number. -/
theorem isDecimal_of_digitsFrom? {text : List Char} {value result : Nat}
    (h : digitsFrom? 10 value text = some result) : ∀ c ∈ text, isDecimal c = true := by
  induction text generalizing value with
  | nil => exact fun c hmem => absurd hmem List.not_mem_nil
  | cons c rest ih =>
    rw [digitsFrom?] at h
    cases hdigit : digit? c with
    | none => simp [hdigit] at h
    | some digit =>
      simp only [hdigit] at h
      split_ifs at h with hless
      exact List.forall_mem_cons.mpr ⟨isDecimal_of_digit? hdigit hless, ih h⟩

/-- A text with another character is not read as a decimal number. -/
theorem digits?_eq_none {text : List Char} {c : Char} (hmem : c ∈ text)
    (h : isDecimal c = false) : digits? 10 text = none := by
  rw [Option.eq_none_iff_forall_not_mem]
  intro result hresult
  have hsome : digitsFrom? 10 0 text = some result := by
    unfold digits? at hresult
    split at hresult
    · cases hresult
    · exact hresult
  rw [isDecimal_of_digitsFrom? hsome c hmem] at h
  cases h

/-- The text of a whole number is read as this number. -/
theorem digits?_decimalChars (n : Nat) : digits? 10 (decimalChars n) = some n := by
  rw [digits?_of_isDecimal (fun c => isDecimal_of_mem) Nat.toDigits_ne_nil]
  exact congrArg some Nat.ofDigitChars_ten_toDigits

/-- The first digit of a positive number is not zero. -/
theorem exists_decimalChars_cons {n : Nat} (h : 0 < n) :
    ∃ c rest, decimalChars n = c :: rest ∧ isDecimal c = true ∧ c ≠ '0' := by
  induction n using Nat.strong_induction_on with
  | _ n ih =>
    unfold decimalChars at ih ⊢
    rw [Nat.toDigits_eq_if (by decide)]
    split
    · next hless =>
      refine ⟨_, _, rfl, isDecimal_iff.mpr ?_, ?_⟩
      · simpa [Nat.isDigit_digitChar] using hless
      · rw [Ne, Nat.digitChar_eq_zero]
        omega
    · next hmore =>
      obtain ⟨c, rest, heq, hc⟩ := ih (n / 10) (by omega) (by omega)
      exact ⟨c, rest ++ [(n % 10).digitChar], by rw [heq, List.cons_append], hc⟩

/-! ### Doubles -/

section

variable {whole fraction tail : List Char} {power : Int}
  (hwhole : ∀ c ∈ whole, isDecimal c = true)
include hwhole

/-- The digits at the beginning of a text, and what is behind them. -/
theorem takeWhile_dropWhile_digits (htail : tail.head?.all (!isDecimal ·) = true) :
    (whole ++ tail).takeWhile isDecimal = whole ∧ (whole ++ tail).dropWhile isDecimal = tail := by
  rw [List.takeWhile_append_of_pos hwhole, List.dropWhile_append_of_pos hwhole]
  cases tail with
  | nil => simp
  | cons c rest =>
    have hc : isDecimal c = false := by simpa using htail
    simp [hc]

/-- A number with an exponent and without a point. -/
theorem unsignedDouble?_exponent (hne : whole ≠ []) (hpower : exponent? ('e' :: tail) = some power)
    (negative : Bool) :
    unsignedDouble? negative (whole ++ 'e' :: tail) =
      some (ofDecimal negative (Nat.ofDigitChars 10 whole 0) power) := by
  obtain ⟨htake, hdrop⟩ := @takeWhile_dropWhile_digits _ ('e' :: tail) hwhole rfl
  unfold unsignedDouble?
  simp [htake, hdrop, digits?_of_isDecimal hwhole hne, hpower]

/-- A number with a point, and with an exponent if there is one. -/
theorem unsignedDouble?_point (hfraction : ∀ c ∈ fraction, isDecimal c = true)
    (htail : tail.head?.all (!isDecimal ·) = true) (hne : whole ≠ [])
    (hpower : exponent? tail = some power) (negative : Bool) :
    unsignedDouble? negative (whole ++ '.' :: (fraction ++ tail)) =
      some (ofDecimal negative (Nat.ofDigitChars 10 (whole ++ fraction) 0)
        (power - fraction.length)) := by
  obtain ⟨htake, hdrop⟩ := @takeWhile_dropWhile_digits _ ('.' :: (fraction ++ tail)) hwhole rfl
  obtain ⟨htake', hdrop'⟩ := takeWhile_dropWhile_digits hfraction htail
  have hdigits : ∀ c ∈ whole ++ fraction, isDecimal c = true :=
    List.forall_mem_append.mpr ⟨hwhole, hfraction⟩
  unfold unsignedDouble?
  simp only [htake, hdrop, htake', hdrop']
  rw [digits?_of_isDecimal hdigits (by simp [hne]), hpower]
  rfl

end

/-- An exponent is read from its text. -/
theorem exponent?_text (exponent : Int) :
    exponent? ('e' :: (if exponent < 0 then '-' :: decimalChars exponent.natAbs
      else decimalChars exponent.natAbs)) = some exponent := by
  by_cases hnegative : exponent < 0
  · have hvalue : -(exponent.natAbs : Int) = exponent := by omega
    rw [if_pos hnegative]
    simp only [exponent?, true_or, if_true, digits?_decimalChars]
    exact congrArg some hvalue
  · have hdigits : ∀ c ∈ decimalChars exponent.natAbs, isDecimal c = true := fun c =>
      isDecimal_of_mem
    have hvalue : (exponent.natAbs : Int) = exponent := by omega
    rw [if_neg hnegative]
    simp only [exponent?, true_or, if_true]
    -- A digit is no sign.
    split
    · next digits hchars =>
      rw [hchars] at hdigits
      exact absurd (hdigits '-' List.mem_cons_self) (by decide)
    · next digits hchars =>
      rw [hchars] at hdigits
      exact absurd (hdigits '+' List.mem_cons_self) (by decide)
    · rw [digits?_decimalChars]
      exact congrArg some hvalue

/-- A text without a sign that is read as the double nearest to a number, and not as a whole
number. -/
structure Spells (text : List Char) (x : Rat) : Prop where
  digit : text.head?.any isDecimal = true
  noLeadingZero : hasLeadingZero text = false
  noWhole : magnitude? text = none
  read : ∃ (digits : Nat) (power : Int), (digits : Rat) * 10 ^ power = x ∧
    ∀ negative, unsignedDouble? negative text = some (ofDecimal negative digits power)

/-- Where a text begins with a digit other than zero there is no zero too many, and no mark of a
radix. -/
theorem hasLeadingZero_cons {c : Char} (hc : isDecimal c = true) (hzero : c ≠ '0')
    (rest : List Char) : hasLeadingZero (c :: rest) = false ∧
      magnitude? (c :: rest) = digits? 10 (c :: rest) := by
  have hleading : hasLeadingZero (c :: rest) = false := by
    have hminus : c ≠ '-' := by
      rintro rfl
      exact absurd hc (by decide)
    have hplus : c ≠ '+' := by
      rintro rfl
      exact absurd hc (by decide)
    simp [hasLeadingZero, hzero, hminus, hplus]
  refine ⟨hleading, ?_⟩
  simp [magnitude?, hzero, hleading]

section

variable {rest : List Char} {x : Rat}

/-- A text that begins with a zero and a point. -/
theorem Spells.of_point (hread : ∃ (digits : Nat) (power : Int), (digits : Rat) * 10 ^ power = x ∧
      ∀ negative, unsignedDouble? negative ('0' :: '.' :: rest) =
        some (ofDecimal negative digits power)) : Spells ('0' :: '.' :: rest) x := by
  refine ⟨rfl, rfl, ?_, hread⟩
  have hnone : digits? 10 ('0' :: '.' :: rest) = none :=
    digits?_eq_none (c := '.') (by simp) (by decide)
  simp [magnitude?, hasLeadingZero, hnone]

/-- A text that begins with the digits of a positive number and does not consist of digits. -/
theorem Spells.of_digits {n : Nat} {text : List Char} (other : Char) (hpositive : 0 < n)
    (htext : text.take 1 = (decimalChars n).take 1) (hother : other ∈ text)
    (hdecimal : isDecimal other = false)
    (hread : ∃ (digits : Nat) (power : Int), (digits : Rat) * 10 ^ power = x ∧
      ∀ negative, unsignedDouble? negative text = some (ofDecimal negative digits power)) :
    Spells text x := by
  obtain ⟨c, others, hchars, hc, hzero⟩ := exists_decimalChars_cons hpositive
  cases text with
  | nil => cases hother
  | cons first rest =>
    obtain rfl : first = c := by simpa [hchars] using htext
    obtain ⟨hleading, hmagnitude⟩ := hasLeadingZero_cons hc hzero rest
    exact ⟨hc, hleading, hmagnitude.trans (digits?_eq_none hother hdecimal), hread⟩

end

/-- Zeros are digits. -/
theorem isDecimal_of_mem_zeros {n : Nat} : ∀ c ∈ List.replicate n '0', isDecimal c = true := by
  intro c hmem
  rw [List.eq_of_mem_replicate hmem]
  decide

/-- Zeros before digits do not count, and behind them they are powers of ten. -/
theorem ofDigitChars_zeros (n : Nat) (before after : Nat) :
    Nat.ofDigitChars 10 (List.replicate before '0' ++ (decimalChars n ++
      List.replicate after '0')) 0 = 10 ^ after * n := by
  rw [Nat.ofDigitChars_append, Nat.ofDigitChars_append, Nat.ofDigitChars_replicate_zero,
    Nat.ofDigitChars_replicate_zero, Nat.mul_zero]
  exact congrArg (10 ^ after * ·) Nat.ofDigitChars_ten_toDigits

section

variable {d : Digits} (h : d.IsCounted)
include h

/-- The first digit of a number is not zero. -/
theorem digits_pos : 0 < d.digits := lt_of_lt_of_le (Nat.pow_pos (by decide)) h.least

/-- Digits are shown with all of them. -/
theorem length_decimalChars : (decimalChars d.digits).length = d.count := by
  have hlength : 0 < (decimalChars d.digits).length := Nat.length_toDigits_pos
  apply le_antisymm
  · exact (Nat.length_toDigits_le_iff (by decide) h.positive).mpr h.greatest
  · by_contra hless
    have hfew := (Nat.length_toDigits_le_iff (b := 10) (n := d.digits) (k := d.count - 1)
      (by decide) (by omega)).mp (Nat.le_pred_of_lt (not_le.mp hless))
    exact absurd hfew (not_lt.mpr h.least)

/-- Zeros behind the point put the first digit in its place. -/
theorem spells_behindPoint (hpoint : d.point ≤ 0) :
    Spells ('0' :: '.' :: (List.replicate (-d.point).toNat '0' ++ decimalChars d.digits))
      d.value := by
  refine Spells.of_point ⟨d.digits, d.point - d.count, rfl, fun negative => ?_⟩
  have hread := @unsignedDouble?_point ['0'] _ [] 0 (List.forall_mem_singleton.mpr rfl)
    (List.forall_mem_append.mpr ⟨isDecimal_of_mem_zeros (n := (-d.point).toNat),
      fun c => isDecimal_of_mem (n := d.digits)⟩) rfl (by decide) rfl negative
  have hvalue := ofDigitChars_zeros d.digits ((-d.point).toNat + 1) 0
  rw [List.append_nil] at hread
  refine hread.trans ?_
  congr 2
  · simpa [List.replicate_succ] using hvalue
  · rw [List.length_append, List.length_replicate, length_decimalChars h]
    omega

/-- Zeros before the point put the last digit in its place, and one more stands behind it. -/
theorem spells_beforePoint (hpoint : (d.count : Int) ≤ d.point) :
    Spells (decimalChars d.digits ++ List.replicate (d.point.toNat - d.count) '0' ++ ['.', '0'])
      d.value := by
  have hlength := length_decimalChars h
  refine Spells.of_digits '.' (digits_pos h) ?_ (by simp) (by decide)
    ⟨10 ^ (d.point.toNat - d.count + 1) * d.digits, -1, ?_, fun negative => ?_⟩
  · rw [List.append_assoc, List.take_append_of_le_length (by rw [hlength]; exact h.positive)]
  · have hpower : (10 : Rat) ^ (d.point - d.count) =
        10 ^ (d.point.toNat - d.count + 1) * 10 ^ (-1 : Int) := by
      rw [← zpow_natCast, ← zpow_add₀ (by norm_num)]
      congr 1
      omega
    rw [Digits.value, hpower]
    push_cast
    ring
  · have hread := @unsignedDouble?_point _ ['0'] [] 0
      (List.forall_mem_append.mpr ⟨fun c => isDecimal_of_mem (n := d.digits),
        isDecimal_of_mem_zeros (n := d.point.toNat - d.count)⟩) (List.forall_mem_singleton.mpr rfl)
      rfl (by simp [decimalChars, Nat.toDigits_ne_nil]) rfl negative
    have hvalue := ofDigitChars_zeros d.digits 0 (d.point.toNat - d.count + 1)
    rw [List.replicate_succ', ← List.append_assoc (decimalChars d.digits), List.replicate_zero,
      List.nil_append] at hvalue
    refine hread.trans ?_
    rw [hvalue]
    rfl

/-- The point stands between two digits. -/
theorem spells_betweenDigits (hpositive : 0 < d.point) (hpoint : d.point < d.count) :
    Spells ((decimalChars d.digits).take d.point.toNat ++
      '.' :: (decimalChars d.digits).drop d.point.toNat) d.value := by
  have hlength := length_decimalChars h
  have hchars : ∀ c ∈ decimalChars d.digits, isDecimal c = true := fun c => isDecimal_of_mem
  refine Spells.of_digits '.' (digits_pos h) ?_ (by simp) (by decide)
    ⟨d.digits, d.point - d.count, rfl, fun negative => ?_⟩
  · rw [List.take_append_of_le_length (by rw [List.length_take, hlength]; omega), List.take_take]
    congr 1
    omega
  · have hread := @unsignedDouble?_point ((decimalChars d.digits).take d.point.toNat)
      ((decimalChars d.digits).drop d.point.toNat) [] 0
      (fun c hmem => hchars c (List.mem_of_mem_take hmem))
      (fun c hmem => hchars c (List.mem_of_mem_drop hmem)) rfl
      (List.ne_nil_of_length_pos (by rw [List.length_take, hlength]; omega)) rfl negative
    rw [List.append_nil, List.take_append_drop] at hread
    refine hread.trans ?_
    congr 2
    · exact Nat.ofDigitChars_ten_toDigits
    · rw [List.length_drop, hlength]
      omega

/-- With the point in its place, digits are read as the number they stand for. -/
theorem spells_positionalText : Spells (positionalText numberLayout d) d.value := by
  unfold positionalText
  split
  · next hpoint => exact spells_behindPoint h hpoint
  · next hpoint =>
    dsimp only
    split
    · next hcount => exact spells_beforePoint h (by omega)
    · next hcount => exact spells_betweenDigits h (by omega) (by omega)

/-- With an exponent, digits are read as the number they stand for. -/
theorem spells_scientificText : Spells (scientificText numberLayout d) d.value := by
  have hlength := length_decimalChars h
  have hchars : ∀ c ∈ decimalChars d.digits, isDecimal c = true := fun c => isDecimal_of_mem
  have hwhole : ∀ c ∈ (decimalChars d.digits).take 1, isDecimal c = true := fun c hmem =>
    hchars c (List.mem_of_mem_take hmem)
  have hpositive := h.positive
  have hne : (decimalChars d.digits).take 1 ≠ [] :=
    List.ne_nil_of_length_pos (by rw [List.length_take, hlength]; omega)
  have hexponent := exponent?_text (d.point - 1)
  have hlayout : numberLayout.signsExponent = false := rfl
  unfold scientificText
  simp only [hlayout, Bool.false_eq_true, if_false]
  refine Spells.of_digits 'e' (digits_pos h) ?_ (by simp) (by decide)
    ⟨d.digits, d.point - d.count, rfl, fun negative => ?_⟩
  · rw [List.append_assoc, List.take_append_of_le_length, List.take_take]
    · rfl
    · rw [List.length_take, hlength]
      omega
  · split
    · next hempty =>
      -- There is no other digit.
      have hdrop : (decimalChars d.digits).drop 1 = [] := by simpa using hempty
      have hfew : (decimalChars d.digits).length ≤ 1 := List.drop_eq_nil_iff.mp hdrop
      have hone : d.count = 1 := by omega
      have hread := unsignedDouble?_exponent hwhole hne hexponent negative
      rw [List.append_nil]
      refine hread.trans ?_
      rw [List.take_of_length_le hfew, hone]
      congr 2
      exact Nat.ofDigitChars_ten_toDigits
    · next hfraction =>
      have hread := @unsignedDouble?_point _ ((decimalChars d.digits).drop 1) _ _ hwhole
        (fun c hmem => hchars c (List.mem_of_mem_drop hmem)) rfl hne hexponent negative
      rw [List.append_assoc, List.cons_append]
      refine hread.trans ?_
      rw [List.take_append_drop]
      congr 2
      · exact Nat.ofDigitChars_ten_toDigits
      · rw [List.length_drop, hlength]
        omega

end

/-- The text of a positive double is read as the number its digits stand for. -/
theorem spells_magnitudeText {mantissa : Nat} {exponent : Int} (h : IsNormal mantissa exponent)
    (hpositive : 0 < mantissa) :
    Spells (magnitudeText numberLayout mantissa exponent) (shortest mantissa exponent).value := by
  have hcounted := (shortest_spec h hpositive).1
  unfold magnitudeText
  rw [if_neg hpositive.ne']
  simp only [numberLayout]
  split
  · exact spells_positionalText hcounted
  · exact spells_scientificText hcounted

/-- The text of a finite double without its sign is read as this double. -/
theorem unsignedDouble?_magnitudeText {mantissa : Nat} {exponent : Int}
    (h : IsNormal mantissa exponent) (negative : Bool) :
    unsignedDouble? negative (magnitudeText numberLayout mantissa exponent) =
      some (finite negative mantissa exponent) := by
  rcases Nat.eq_zero_or_pos mantissa with rfl | hpositive
  · have hexponent : exponent = minExponent := by
      rcases h.normal with heq | hnormal
      · exact heq
      · exact absurd hnormal (by norm_num)
    subst hexponent
    cases negative <;> decide +kernel
  · obtain ⟨digits, power, hvalue, hread⟩ := (spells_magnitudeText h hpositive).read
    have hcontains := (shortest_spec h hpositive).2
    rw [← hvalue] at hcontains
    rw [hread, ofDecimal_of_contains h hcontains hpositive]

/-! ### Plain scalars -/

/-- Whether a text begins with a digit, or with a minus and a digit. -/
def startsNumber : List Char → Bool
  | '-' :: rest => rest.head?.any isDecimal
  | text => text.head?.any isDecimal

section

variable {text : String} (h : startsNumber text.toList = true)
include h

/-- What begins like a number is none of the names that do not. -/
theorem notMem_of_startsNumber {names : List String}
    (hnames : names.all (fun name => !startsNumber name.toList) = true) : text ∉ names := by
  intro hmem
  have hname := List.all_eq_true.mp hnames text hmem
  rw [h] at hname
  cases hname

/-- What begins like a number is a number or a text. -/
theorem value?_of_startsNumber : value? text =
    match (whole? text.toList).filter isRead with
    | some value => if fits value then some (.number (.whole value)) else none
    | none =>
      match if hasLeadingZero text.toList then none else finiteDouble? text.toList with
      | some value => some (.number (.double value))
      | none => some (.string text) := by
  have hsimple : (text.isEmpty || isNull text) = false := by
    have hname : text ∉ ["", "~", "null", "Null", "NULL"] := notMem_of_startsNumber h (by decide)
    simp only [List.mem_cons, List.not_mem_nil, or_false, not_or] at hname
    simp [isNull, hname]
  have hswitch : switch? text = none := by
    have hname : text ∉ ["true", "True", "TRUE", "false", "False", "FALSE"] :=
      notMem_of_startsNumber h (by decide)
    simp only [List.mem_cons, List.not_mem_nil, or_false, not_or] at hname
    simp [switch?, hname]
  have hdouble : double? text = finiteDouble? text.toList := by
    unfold double?
    rw [if_neg (notMem_of_startsNumber h (by decide)), if_neg (notMem_of_startsNumber h (by decide)),
      if_neg (notMem_of_startsNumber h (by decide))]
  unfold value?
  rw [hsimple, hswitch, hdouble]
  rfl

end

section

variable {text : List Char} (h : text.head?.any isDecimal = true)
include h

/-- A digit is no sign. -/
theorem exists_cons_of_digit : ∃ c rest, text = c :: rest ∧ isDecimal c = true ∧ c ≠ '-' ∧ c ≠ '+' := by
  cases text with
  | nil => cases h
  | cons c rest =>
    have hc : isDecimal c = true := h
    refine ⟨c, rest, rfl, hc, ?_, ?_⟩
    · rintro rfl
      exact absurd hc (by decide)
    · rintro rfl
      exact absurd hc (by decide)

/-- A number without a sign. -/
theorem unsigned_of_digit : startsNumber text = true ∧
    whole? text = (magnitude? text).map Int.ofNat ∧
    finiteDouble? text = (unsignedDouble? false text).bind fun value =>
      if value.isFinite then some value else none := by
  obtain ⟨c, rest, rfl, hc, hminus, hplus⟩ := exists_cons_of_digit h
  refine ⟨?_, ?_, ?_⟩
  · simp [startsNumber, hminus, hc]
  · simp [whole?, hminus, hplus]
  · simp [finiteDouble?, hminus, hplus]

/-- A number with a minus. -/
theorem negative_of_digit : startsNumber ('-' :: text) = true ∧
    whole? ('-' :: text) = (magnitude? text).map (fun magnitude => -(magnitude : Int)) ∧
    finiteDouble? ('-' :: text) = ((unsignedDouble? true text).bind fun value =>
      if value.isFinite then some value else none) ∧
    hasLeadingZero ('-' :: text) = hasLeadingZero text := by
  obtain ⟨c, rest, rfl, hc, hminus, hplus⟩ := exists_cons_of_digit h
  refine ⟨hc, rfl, ?_, ?_⟩
  · rfl
  · simp [hasLeadingZero, hminus, hplus]

end

/-- The text of a number that is not negative begins with a digit, and is read as the number. -/
theorem magnitude?_decimalChars (n : Nat) :
    (decimalChars n).head?.any isDecimal = true ∧ magnitude? (decimalChars n) = some n := by
  rcases Nat.eq_zero_or_pos n with rfl | hpositive
  · decide
  · obtain ⟨c, rest, hchars, hc, hzero⟩ := exists_decimalChars_cons hpositive
    have hread := digits?_decimalChars n
    rw [hchars] at hread ⊢
    exact ⟨hc, ((hasLeadingZero_cons hc hzero rest).2).trans hread⟩

/-- The text of a whole number begins like a number, and is read as this number. -/
theorem whole?_wholeText (value : Int) :
    startsNumber (JsonNumber.wholeText value).toList = true ∧
      whole? (JsonNumber.wholeText value).toList = some value := by
  obtain ⟨hdigit, hmagnitude⟩ := magnitude?_decimalChars value.natAbs
  unfold JsonNumber.wholeText
  split
  · next hnegative =>
    obtain ⟨hstarts, hwhole, -⟩ := negative_of_digit hdigit
    rw [String.toList_ofList, hwhole, hmagnitude]
    exact ⟨hstarts, congrArg some (show -(value.natAbs : Int) = value by omega)⟩
  · next hnonneg =>
    obtain ⟨hstarts, hwhole, -⟩ := unsigned_of_digit hdigit
    rw [String.toList_ofList, hwhole, hmagnitude]
    exact ⟨hstarts, congrArg some (show ((value.natAbs : Nat) : Int) = value by omega)⟩

/-- The text of a finite double begins like a number, and is read as this double and not as a whole
number. -/
theorem finiteDouble?_text {mantissa : Nat} {exponent : Int} (h : IsNormal mantissa exponent)
    (negative : Bool) :
    let text := (text numberLayout (finite negative mantissa exponent)).toList
    startsNumber text = true ∧ whole? text = none ∧ hasLeadingZero text = false ∧
      finiteDouble? text = some (finite negative mantissa exponent) := by
  have hread := unsignedDouble?_magnitudeText h
  have hshape : (magnitudeText numberLayout mantissa exponent).head?.any isDecimal = true ∧
      hasLeadingZero (magnitudeText numberLayout mantissa exponent) = false ∧
      magnitude? (magnitudeText numberLayout mantissa exponent) = none := by
    rcases Nat.eq_zero_or_pos mantissa with rfl | hpositive
    · exact ⟨rfl, rfl, rfl⟩
    · have hspells := spells_magnitudeText h hpositive
      exact ⟨hspells.digit, hspells.noLeadingZero, hspells.noWhole⟩
  obtain ⟨hdigit, hleading, hmagnitude⟩ := hshape
  cases negative with
  | false =>
    obtain ⟨hstarts, hwhole, hdouble⟩ := unsigned_of_digit hdigit
    rw [hmagnitude] at hwhole
    rw [hread false] at hdouble
    simp only [Binary64.text, Bool.false_eq_true, if_false, List.nil_append, String.toList_ofList]
    exact ⟨hstarts, hwhole, hleading, hdouble⟩
  | true =>
    obtain ⟨hstarts, hwhole, hdouble, hzero⟩ := negative_of_digit hdigit
    rw [hmagnitude] at hwhole
    rw [hread true] at hdouble
    simp only [Binary64.text, if_true, List.singleton_append, String.toList_ofList]
    exact ⟨hstarts, hwhole, hzero.trans hleading, hdouble⟩

/-- A number as a value has it: whole numbers are not too large, and doubles have a mantissa and an
exponent that fit. -/
def IsStored : JsonNumber → Prop
  | .whole value => fits value = true
  | .double value => value.IsDouble

/-- A whole number that can be a value is read as one. -/
theorem isRead_of_fits {value : Int} (h : fits value = true) : isRead value = true := by
  simp only [fits, isRead, Bool.and_eq_true, decide_eq_true_eq, Nat.shiftLeft_eq] at h ⊢
  omega

/-- The text of a number is read as this number. -/
theorem value?_numberText {value : JsonNumber} (h : IsStored value) :
    value? (numberText value) = some (.number value) := by
  cases value with
  | whole value =>
    obtain ⟨hstarts, hwhole⟩ := whole?_wholeText value
    have hfits : fits value = true := h
    rw [numberText, value?_of_startsNumber hstarts, hwhole]
    simp [Option.filter, isRead_of_fits hfits, hfits]
  | double value =>
    cases value with
    | finite negative mantissa exponent =>
      obtain ⟨hstarts, hwhole, hleading, hdouble⟩ := finiteDouble?_text h negative
      rw [numberText, value?_of_startsNumber hstarts, hwhole, hleading, hdouble]
      rfl
      all_goals simp
    | infinite negative => cases negative <;> rfl
    | nan => rfl

end Yaml.Plain

end Conventions
