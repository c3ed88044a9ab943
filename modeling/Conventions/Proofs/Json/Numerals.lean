import Conventions.Proofs.Json.Tokens

/-!
# Numbers where they stand

A number ends where no character follows that could be a part of it. So it is read alike at the end
of a text and in front of other text, wherever this is.
-/

namespace Conventions.Json

/-- A text that may follow a number: it does not start with a character that could be a part of
one. -/
def EndsNumber (rest : List Char) : Prop :=
  ∀ c ∈ rest.head?, isDigit c = false ∧ c ≠ '.' ∧ c ≠ 'e' ∧ c ≠ 'E'

namespace Cursor

variable {rest : List Char}

/-- What an exponent starts with: its sign, and the place behind it. -/
def exponentStart (cursor : Cursor) : Bool × Cursor :=
  match cursor.rest with
  | '-' :: _ => (true, cursor.drop)
  | '+' :: _ => (false, cursor.drop)
  | _ => (false, cursor)

/-- A cursor is where another one is, but `rest` follows behind the text of the other. -/
def Extends (rest : List Char) (longer cursor : Cursor) : Prop :=
  longer.rest = cursor.rest ++ rest

/-- Part of a number: in front of `rest` it is read as at the end of a text. -/
def IsLocal {α : Type} (rest : List Char) (read : Cursor → Except Break (α × Cursor)) : Prop :=
  ∀ {cursor longer value after}, longer.Extends rest cursor → read cursor = .ok (value, after) →
    after.rest <:+ cursor.rest ∧
      ∃ after', read longer = .ok (value, after') ∧ after'.Extends rest after

/-- A character that is passed over is the same for both. -/
theorem Extends.drop {longer cursor : Cursor} (h : longer.Extends rest cursor) {c : Char}
    {more : List Char} (hcursor : cursor.rest = c :: more) :
    longer.drop.Extends rest cursor.drop ∧ cursor.drop.rest = more := by
  have hlonger : longer.rest = c :: (more ++ rest) := by rw [h, hcursor, List.cons_append]
  simp [Extends, Cursor.drop, hcursor, hlonger]

variable (hends : EndsNumber rest)
include hends

/-- The digits that come next are the same in front of the end of a number. -/
theorem Extends.exists_digits {longer cursor : Cursor} (h : longer.Extends rest cursor) :
    ∃ after, longer.digits = (cursor.digits.1, after) ∧ after.Extends rest cursor.digits.2 := by
  have hrest : rest.takeWhile isDigit = [] ∧ rest.dropWhile isDigit = rest := by
    cases rest with
    | nil => exact ⟨rfl, rfl⟩
    | cons c rest =>
      have hc := (hends c rfl).1
      simp [hc]
  have h : longer.rest = cursor.rest ++ rest := h
  have htaken : longer.digits.1 = cursor.digits.1 := by
    simp only [digits, h, List.takeWhile_append, hrest.1]
    split
    · next hall =>
      rw [List.append_nil, (List.takeWhile_prefix _).eq_of_length hall]
    · rfl
  have hleft : longer.digits.2.rest = cursor.digits.2.rest ++ rest := by
    simp only [digits, h, List.dropWhile_append, hrest.2]
    split
    · next hall => simp [List.isEmpty_iff.mp hall]
    · rfl
  exact ⟨longer.digits.2, Prod.ext htaken rfl, hleft⟩

omit hends in
/-- Behind digits there is what was behind them. -/
theorem suffix_of_digits {cursor after : Cursor} {found : List Char}
    (h : cursor.digits = (found, after)) : after.rest <:+ cursor.rest := by
  cases h
  exact List.dropWhile_suffix _

/-- A fraction is read up to the end of the number. -/
theorem isLocal_fraction : IsLocal rest fraction := by
  intro cursor longer value after hlonger h
  obtain ⟨after', hread, hafter⟩ := hlonger.exists_digits hends
  rcases hdigits : cursor.digits with ⟨_ | ⟨c, more⟩, stopped⟩
  · simp only [fraction, hdigits] at h
    split at h <;> cases h
  · simp only [fraction, hdigits] at h
    cases h
    rw [hdigits] at hread hafter
    refine ⟨suffix_of_digits hdigits, after', ?_, hafter⟩
    simp only [fraction, hread]

omit hends in
/-- Digits in front of a point are several, or a zero alone. -/
theorem wholeDigits_eq {cursor after : Cursor} {found : List Char}
    (hdigits : cursor.digits = (found, after)) (hne : found ≠ [])
    (hzero : found.head? = some '0' → found = ['0']) : cursor.wholeDigits = .ok (found, after) := by
  unfold wholeDigits
  rw [hdigits]
  split
  · next heq =>
    cases heq
    exact absurd rfl hne
  · next more stopped heq =>
    cases heq
    obtain rfl : more = [] := by simpa using hzero rfl
    rfl
  · next heq =>
    cases heq
    rfl

omit hends in
/-- Only digits are taken for the whole part of a number, and behind a zero there is no other. -/
theorem digits_of_wholeDigits {cursor after : Cursor} {found : List Char}
    (h : cursor.wholeDigits = .ok (found, after)) :
    cursor.digits = (found, after) ∧ found ≠ [] ∧ (found.head? = some '0' → found = ['0']) := by
  unfold wholeDigits at h
  split at h
  · split at h <;> cases h
  · next more stopped heq =>
    split at h
    · next hempty =>
      cases h
      rw [heq, List.isEmpty_iff.mp hempty]
      simp
    · cases h
  · next hne hzero heq =>
    cases h
    refine ⟨heq, hne, fun hhead => ?_⟩
    obtain ⟨more, rfl⟩ := List.head?_eq_some_iff.mp hhead
    exact absurd rfl (hzero more)

/-- The digits in front of a point are read up to the end of the number. -/
theorem isLocal_wholeDigits : IsLocal rest wholeDigits := by
  intro cursor longer value after hlonger h
  obtain ⟨hdigits, hne, hzero⟩ := digits_of_wholeDigits h
  obtain ⟨after', hread, hafter⟩ := hlonger.exists_digits hends
  rw [hdigits] at hread hafter
  exact ⟨suffix_of_digits hdigits, after', wholeDigits_eq hread hne hzero, hafter⟩

/-- A point or the letter of an exponent that comes next is a part of the number. -/
theorem Extends.exists_cons {longer cursor : Cursor} (h : longer.Extends rest cursor) {c : Char}
    {more : List Char} (hpart : c = '.' ∨ c = 'e' ∨ c = 'E') (hlonger : longer.rest = c :: more) :
    ∃ others, cursor.rest = c :: others := by
  have hrest : cursor.rest ++ rest = c :: more := h.symm.trans hlonger
  cases hcursor : cursor.rest with
  | nil =>
    rw [hcursor, List.nil_append] at hrest
    have hend := hends c (by rw [hrest]; rfl)
    grind
  | cons d others =>
    rw [hcursor, List.cons_append] at hrest
    exact ⟨others, by rw [(List.cons.inj hrest).1]⟩

/-- The fraction of a number, if it has one. -/
def fractionPart (cursor : Cursor) : Except Break (List Char × Cursor) :=
  match cursor.rest with
  | '.' :: _ => cursor.drop.fraction
  | _ => pure ([], cursor)

omit hends in
/-- Behind a point there is a fraction. -/
theorem fractionPart_of_point {cursor : Cursor} {more : List Char} (h : cursor.rest = '.' :: more) :
    cursor.fractionPart = cursor.drop.fraction := by
  unfold fractionPart
  rw [h]
  rfl

omit hends in
/-- Without a point there is none. -/
theorem fractionPart_of_ne {cursor : Cursor} (h : ∀ more, cursor.rest ≠ '.' :: more) :
    cursor.fractionPart = pure ([], cursor) := by
  unfold fractionPart
  split
  · next hpoint => exact absurd hpoint (h _)
  · rfl

/-- A number with or without a fraction is read up to its end. -/
theorem isLocal_fractionPart : IsLocal rest fractionPart := by
  intro cursor longer value after hlonger h
  by_cases hpoint : ∃ more, cursor.rest = '.' :: more
  · obtain ⟨more, hcursor⟩ := hpoint
    have hlong : longer.rest = '.' :: (more ++ rest) := by rw [hlonger, hcursor, List.cons_append]
    rw [fractionPart_of_point hcursor] at h
    rw [fractionPart_of_point hlong]
    obtain ⟨hdrop, hmore⟩ := hlonger.drop hcursor
    obtain ⟨hsuffix, after', hread, hafter⟩ := isLocal_fraction hends hdrop h
    rw [hmore] at hsuffix
    rw [hcursor]
    exact ⟨hsuffix.trans (List.suffix_cons _ _), after', hread, hafter⟩
  · have hnone : ∀ more, cursor.rest ≠ '.' :: more := fun more hmore => hpoint ⟨more, hmore⟩
    rw [fractionPart_of_ne hnone] at h
    cases h
    refine ⟨List.suffix_rfl, longer, fractionPart_of_ne fun more hlong => ?_, hlonger⟩
    obtain ⟨others, hothers⟩ := hlonger.exists_cons hends (Or.inl rfl) hlong
    exact hnone others hothers

omit hends in
/-- The sign of an exponent is its first character, if that is a sign. -/
theorem exponentStart_eq {cursor : Cursor} {c : Char} {more : List Char}
    (h : cursor.rest = c :: more) :
    cursor.exponentStart =
      (decide (c = '-'), if c = '-' ∨ c = '+' then cursor.drop else cursor) := by
  unfold Cursor.exponentStart
  rw [h]
  split
  · next heq =>
    cases heq
    rfl
  · next heq =>
    cases heq
    rfl
  · next hminus hplus =>
    have hnoMinus : c ≠ '-' := fun hc => hminus more (by rw [hc])
    have hnoPlus : c ≠ '+' := fun hc => hplus more (by rw [hc])
    simp [hnoMinus, hnoPlus]

omit hends in
/-- The sign of an exponent is the same where more follows, if anything comes next. -/
theorem Extends.exponentStart {longer cursor : Cursor} (h : longer.Extends rest cursor)
    (hne : cursor.rest ≠ []) : longer.exponentStart.1 = cursor.exponentStart.1 ∧
      longer.exponentStart.2.Extends rest cursor.exponentStart.2 ∧
      cursor.exponentStart.2.rest <:+ cursor.rest := by
  obtain ⟨c, more, hcursor⟩ := List.exists_cons_of_ne_nil hne
  obtain ⟨hdrop, hmore⟩ := h.drop hcursor
  have hlong : longer.rest = c :: (more ++ rest) := by rw [h, hcursor, List.cons_append]
  rw [exponentStart_eq hcursor, exponentStart_eq hlong]
  dsimp only
  split
  · refine ⟨rfl, hdrop, ?_⟩
    rw [hmore, hcursor]
    exact List.suffix_cons _ _
  · exact ⟨rfl, h, List.suffix_rfl⟩

omit hends in
/-- An exponent is its sign and the digits behind it, which have to be there. -/
theorem exponent_eq (cursor : Cursor) :
    cursor.exponent = match cursor.exponentStart.2.digits with
      | ([], stopped) =>
        if stopped.rest.isEmpty then .error (.either .endInValue .invalidNumber stopped.mark)
        else .error (.at .invalidNumber stopped.peek)
      | (digits, after) => .ok (cursor.exponentStart.1, digits, after) := rfl

omit hends in
/-- An exponent is not empty. -/
theorem ne_nil_of_exponent {cursor : Cursor} {result : Bool × List Char × Cursor}
    (h : cursor.exponent = .ok result) : cursor.rest ≠ [] := by
  intro hnil
  have hstart : cursor.exponentStart = (false, cursor) := by
    unfold Cursor.exponentStart
    rw [hnil]
  have hdigits : cursor.digits = ([], cursor.digits.2) := Prod.ext (by simp [digits, hnil]) rfl
  rw [exponent_eq, hstart, hdigits] at h
  dsimp only at h
  split at h <;> cases h

/-- An exponent is read up to the end of the number. -/
theorem Extends.exists_exponent {longer cursor after : Cursor} (h : longer.Extends rest cursor)
    {negative : Bool} {found : List Char} (hread : cursor.exponent = .ok (negative, found, after)) :
    after.rest <:+ cursor.rest ∧
      ∃ after', longer.exponent = .ok (negative, found, after') ∧ after'.Extends rest after := by
  obtain ⟨hsign, hstart, hsuffix⟩ := h.exponentStart (ne_nil_of_exponent hread)
  obtain ⟨after', hlong, hafter⟩ := hstart.exists_digits hends
  rw [exponent_eq] at hread
  rw [exponent_eq, hlong, hsign]
  rcases hdigits : cursor.exponentStart.2.digits with ⟨_ | ⟨c, more⟩, stopped⟩
  · rw [hdigits] at hread
    dsimp only at hread
    split at hread <;> cases hread
  · rw [hdigits] at hread hafter
    cases hread
    exact ⟨(suffix_of_digits hdigits).trans hsuffix, after', rfl, hafter⟩

/-- A numeral whose exponent comes next. -/
def withExponent (negative : Bool) (whole fraction : List Char) (start : Cursor) :
    Except Break (Numeral × Mark × Cursor) := do
  let (isNegative, digits, after) ← start.exponent
  pure (⟨negative, whole, fraction, some (isNegative, digits)⟩,
    ⟨after.mark.line, after.mark.column - digits.length⟩, after)

/-- A numeral behind its fraction: with an exponent, if there is one. -/
def exponentPart (negative : Bool) (whole fraction : List Char) (cursor : Cursor) :
    Except Break (Numeral × Mark × Cursor) :=
  match cursor.rest with
  | 'e' :: _ => cursor.drop.withExponent negative whole fraction
  | 'E' :: _ => cursor.drop.withExponent negative whole fraction
  | _ => pure (⟨negative, whole, fraction, none⟩, cursor.mark, cursor)

omit hends in
/-- A numeral is its whole part, its fraction and its exponent. -/
theorem numeral_eq (negative : Bool) (cursor : Cursor) :
    cursor.numeral negative = (do
      let (whole, cursor) ← cursor.wholeDigits
      let (fraction, cursor) ← cursor.fractionPart
      cursor.exponentPart negative whole fraction) := by
  unfold numeral
  refine congrArg (cursor.wholeDigits >>= ·) (funext fun ⟨whole, cursor⟩ => ?_)
  dsimp only
  split
  · next hpoint =>
    rw [fractionPart_of_point hpoint]
    rfl
  · next hpoint =>
    rw [fractionPart_of_ne hpoint]
    rfl

section

variable {longer cursor after : Cursor} {mark : Mark} {numeral : Numeral} {negative : Bool}
  {whole fraction : List Char} (h : longer.Extends rest cursor)
include h

/-- Behind its letter an exponent is read up to the end of the number. -/
theorem Extends.exists_withExponent {letter : Char} {more : List Char}
    (hcursor : cursor.rest = letter :: more)
    (hread : cursor.drop.withExponent negative whole fraction = .ok (numeral, mark, after)) :
    after.rest <:+ letter :: more ∧ ∃ mark' after',
      longer.drop.withExponent negative whole fraction = .ok (numeral, mark', after') ∧
        after'.Extends rest after := by
  obtain ⟨hdrop, hmore⟩ := h.drop hcursor
  obtain ⟨⟨isNegative, digits, stopped⟩, hexponent, hread⟩ := bind_eq_ok_iff.mp hread
  cases hread
  obtain ⟨hsuffix, after', hread, hafter⟩ := hdrop.exists_exponent hends hexponent
  rw [hmore] at hsuffix
  exact ⟨hsuffix.trans (List.suffix_cons _ _), _, after',
    bind_eq_ok_iff.mpr ⟨_, hread, rfl⟩, hafter⟩

/-- Behind its fraction a numeral is read up to its end. -/
theorem Extends.exists_exponentPart
    (hread : cursor.exponentPart negative whole fraction = .ok (numeral, mark, after)) :
    after.rest <:+ cursor.rest ∧ ∃ mark' after',
      longer.exponentPart negative whole fraction = .ok (numeral, mark', after') ∧
        after'.Extends rest after := by
  unfold exponentPart at hread ⊢
  split at hread
  · next more hcursor =>
    have hlong : longer.rest = 'e' :: (more ++ rest) := by rw [h, hcursor, List.cons_append]
    rw [hlong, hcursor]
    exact h.exists_withExponent hends hcursor hread
  · next more hcursor =>
    have hlong : longer.rest = 'E' :: (more ++ rest) := by rw [h, hcursor, List.cons_append]
    rw [hlong, hcursor]
    exact h.exists_withExponent hends hcursor hread
  · next hsmall hlarge =>
    cases hread
    refine ⟨List.suffix_rfl, longer.mark, longer, ?_, h⟩
    split
    · next more hlong =>
      obtain ⟨others, hothers⟩ := h.exists_cons hends (by decide) hlong
      exact absurd hothers (hsmall others)
    · next more hlong =>
      obtain ⟨others, hothers⟩ := h.exists_cons hends (by decide) hlong
      exact absurd hothers (hlarge others)
    · rfl

/-- A numeral is read up to its end. -/
theorem Extends.exists_numeral (hread : cursor.numeral negative = .ok (numeral, mark, after)) :
    after.rest <:+ cursor.rest ∧ ∃ mark' after',
      longer.numeral negative = .ok (numeral, mark', after') ∧ after'.Extends rest after := by
  rw [numeral_eq] at hread ⊢
  obtain ⟨⟨whole, behindWhole⟩, hwhole, hread⟩ := bind_eq_ok_iff.mp hread
  obtain ⟨⟨fraction, behindFraction⟩, hfraction, hread⟩ := bind_eq_ok_iff.mp hread
  obtain ⟨hfirst, whole', hwhole', hlonger⟩ := isLocal_wholeDigits hends h hwhole
  obtain ⟨hsecond, fraction', hfraction', hlonger⟩ :=
    isLocal_fractionPart hends hlonger hfraction
  obtain ⟨hthird, mark', after', hread', hafter⟩ := hlonger.exists_exponentPart hends hread
  exact ⟨(hthird.trans hsecond).trans hfirst, mark', after',
    bind_eq_ok_iff.mpr ⟨_, hwhole', bind_eq_ok_iff.mpr ⟨_, hfraction', hread'⟩⟩, hafter⟩

/-- A number is read up to its end, and its value is the same. -/
theorem Extends.exists_number {value : JsonNumber} {stop : Mark}
    (hread : cursor.number negative = (.number (.ok value) stop, after)) :
    after.rest <:+ cursor.rest ∧ ∃ stop' after',
      longer.number negative = (.number (.ok value) stop', after') ∧ after'.Extends rest after := by
  unfold number at hread
  split at hread
  · cases hread
  · next numeral mark stopped hnumeral =>
    cases hvalue : numeral.value with
    | error count =>
      rw [hvalue] at hread
      cases hread
    | ok found =>
      rw [hvalue] at hread
      cases hread
      obtain ⟨hsuffix, mark', after', hread', hafter⟩ := h.exists_numeral hends hnumeral
      refine ⟨hsuffix, after'.mark, after', ?_, hafter⟩
      rw [number, hread']
      simp only [hvalue]

end

end Cursor

/-! ### Texts of numbers -/

/-- Digits are no blanks. -/
theorem not_isSpace_of_mem_decimalChars {n : Nat} {c : Char} (h : c ∈ Binary64.decimalChars n) :
    ¬ IsSpace c := by
  have hdigit : c.isDigit = true := Nat.isDigit_of_mem_toDigits (by decide) (by decide) h
  rintro (rfl | rfl | rfl | rfl) <;> cases hdigit

section

variable {layout : Binary64.Layout} {d : Binary64.Digits} {c : Char}

/-- There are no blanks in digits with the point in its place. -/
theorem not_isSpace_of_mem_positionalText (h : c ∈ Binary64.positionalText layout d) :
    ¬ IsSpace c := by
  have hdigits : ∀ n, ∀ c ∈ Binary64.decimalChars n, ¬ IsSpace c :=
    fun _ _ => not_isSpace_of_mem_decimalChars
  have hpoint : ¬ IsSpace '.' := by decide
  have hzero : ¬ IsSpace '0' := by decide
  unfold Binary64.positionalText at h
  grind [List.mem_of_mem_take, List.mem_of_mem_drop]

/-- There are no blanks in digits with an exponent. -/
theorem not_isSpace_of_mem_scientificText (h : c ∈ Binary64.scientificText layout d) :
    ¬ IsSpace c := by
  have hdigits : ∀ n, ∀ c ∈ Binary64.decimalChars n, ¬ IsSpace c :=
    fun _ _ => not_isSpace_of_mem_decimalChars
  have hpoint : ¬ IsSpace '.' := by decide
  have hletter : ¬ IsSpace 'e' := by decide
  have hminus : ¬ IsSpace '-' := by decide
  have hplus : ¬ IsSpace '+' := by decide
  unfold Binary64.scientificText at h
  grind [List.mem_of_mem_take, List.mem_of_mem_drop]

/-- There are no blanks in the text of a double without its sign. -/
theorem not_isSpace_of_mem_magnitudeText {mantissa : Nat} {exponent : Int}
    (h : c ∈ Binary64.magnitudeText layout mantissa exponent) : ¬ IsSpace c := by
  have hzeros : ∀ c ∈ ['0', '.', '0'], ¬ IsSpace c := by simp [IsSpace]
  unfold Binary64.magnitudeText at h
  split at h
  · split at h
    · exact hzeros c h
    · exact hzeros c (by simp_all)
  · dsimp only at h
    split at h
    · exact not_isSpace_of_mem_positionalText h
    · split at h
      · exact not_isSpace_of_mem_positionalText h
      · exact not_isSpace_of_mem_scientificText h

end

/-- There are no blanks in the text of a number. -/
theorem not_isSpace_of_mem_text {number : JsonNumber} {c : Char} (h : c ∈ number.text.toList) :
    ¬ IsSpace c := by
  have hminus : ¬ IsSpace '-' := by decide
  have hnull : ∀ c ∈ "null".toList, ¬ IsSpace c := by simp [IsSpace]
  cases number with
  | whole value =>
    simp only [JsonNumber.text, JsonNumber.wholeText] at h
    split at h
    · rw [String.toList_ofList] at h
      rcases List.mem_cons.mp h with rfl | h
      · exact hminus
      · exact not_isSpace_of_mem_decimalChars h
    · exact not_isSpace_of_mem_decimalChars (String.toList_ofList ▸ h)
  | double value =>
    cases value with
    | finite negative mantissa exponent =>
      have h : c ∈ (if negative then ['-'] else []) ++
          Binary64.magnitudeText JsonNumber.layout mantissa exponent := by
        simpa [JsonNumber.text, Binary64.isFinite, Binary64.text] using h
      rcases List.mem_append.mp h with h | h
      · obtain rfl := List.mem_singleton.mp (List.mem_ite_nil_right.mp h).2
        exact hminus
      · exact not_isSpace_of_mem_magnitudeText h
    | infinite negative => exact hnull c h
    | nan => exact hnull c h
/-! ### Numbers as values -/

/-- A value that is read as a number is one. -/
theorem Node.eq_number_of_value {node : Node} {depth : Depth} {number : JsonNumber}
    (h : node.value depth = .ok (.number number)) : ∃ stop, node = .number (.ok number) stop := by
  cases node with
  | number value stop =>
    obtain ⟨found, rfl, hfound⟩ := map_eq_ok_iff.mp h
    cases hfound
    exact ⟨stop, rfl⟩
  | string value stop =>
    obtain ⟨found, -, hfound⟩ := map_eq_ok_iff.mp h
    cases hfound
  | array start items =>
    obtain ⟨below, -, h⟩ := bind_eq_ok_iff.mp h
    obtain ⟨values, -, h⟩ := bind_eq_ok_iff.mp h
    cases h
  | object start fields =>
    obtain ⟨below, -, h⟩ := bind_eq_ok_iff.mp h
    obtain ⟨values, -, h⟩ := bind_eq_ok_iff.mp h
    cases h
  | _ => cases h

/-- A word gives the value that it stands for, or breaks off. -/
theorem Cursor.word_eq_or (value : Mark → Node) (letters : List Char) (cursor : Cursor) :
    (∃ stop, (cursor.word value letters).1 = value stop) ∨
      ∃ fault, (cursor.word value letters).1 = .broken fault := by
  induction letters generalizing cursor with
  | nil => exact Or.inl ⟨cursor.mark, rfl⟩
  | cons letter letters ih =>
    unfold Cursor.word
    split
    · exact Or.inr ⟨_, rfl⟩
    · split
      · exact ih cursor.drop
      · exact Or.inr ⟨_, rfl⟩

/-- A character with which a number starts. -/
def StartsNumber (c : Char) : Prop := c = '-' ∨ isDigit c = true

/-- The number that comes next. -/
def Cursor.signedNumber (cursor : Cursor) : Node × Cursor :=
  if cursor.rest.head? = some '-' then cursor.drop.number true else cursor.number false

/-- Where a number starts, it is read. -/
theorem scanNode_of_startsNumber {fuel : Nat} {cursor : Cursor} {c : Char} {more : List Char}
    (hcursor : cursor.skipBlanks.rest = c :: more) (h : StartsNumber c) :
    scanNode (fuel + 1) cursor = cursor.skipBlanks.signedNumber := by
  have hletters : c ≠ 'n' ∧ c ≠ 't' ∧ c ≠ 'f' := by
    refine ⟨?_, ?_, ?_⟩ <;>
    · rintro rfl
      exact absurd h (by simp [StartsNumber, isDigit])
  unfold scanNode Cursor.signedNumber
  dsimp only
  rw [hcursor]
  dsimp only
  rw [if_neg hletters.1, if_neg hletters.2.1, if_neg hletters.2.2]
  by_cases hminus : c = '-'
  · rw [if_pos hminus, if_pos (by rw [hminus]; rfl)]
  · rw [if_neg hminus, if_pos (h.resolve_left hminus), if_neg (by simpa using hminus)]

/-- Where a number is read, it starts. -/
theorem exists_startsNumber {fuel : Nat} {cursor : Cursor} {value : Except Fault JsonNumber}
    {stop : Mark} (h : (scanNode (fuel + 1) cursor).1 = .number value stop) :
    ∃ c more, cursor.skipBlanks.rest = c :: more ∧ StartsNumber c := by
  have hword : ∀ (word : Mark → Node) (letters : List Char) (start : Cursor),
      (∀ stop', word stop' ≠ .number value stop) →
        (start.word word letters).1 ≠ .number value stop := by
    intro word letters start hne
    rcases start.word_eq_or word letters with ⟨stop', heq⟩ | ⟨fault, heq⟩
    · rw [heq]
      exact hne stop'
    · rw [heq]
      exact Node.noConfusion
  unfold scanNode at h
  dsimp only at h
  split at h
  · cases h
  · next c more hrest =>
    refine ⟨c, more, hrest, ?_⟩
    split_ifs at h with hnull htrue hfalse hminus hdigit
    · exact absurd h (hword _ _ _ fun _ => Node.noConfusion)
    · exact absurd h (hword _ _ _ fun _ => Node.noConfusion)
    · exact absurd h (hword _ _ _ fun _ => Node.noConfusion)
    · exact Or.inl hminus
    · exact Or.inr hdigit
    · split at h <;> cases h

/-- A number that comes next is read up to its end. -/
theorem Cursor.Extends.exists_signedNumber {rest : List Char} (hends : EndsNumber rest)
    {longer cursor after : Cursor} (h : longer.Extends rest cursor) (hne : cursor.rest ≠ [])
    {value : JsonNumber} {stop : Mark}
    (hread : cursor.signedNumber = (.number (.ok value) stop, after)) :
    after.rest <:+ cursor.rest ∧ ∃ stop' after',
      longer.signedNumber = (.number (.ok value) stop', after') ∧ after'.Extends rest after := by
  obtain ⟨c, more, hcursor⟩ := List.exists_cons_of_ne_nil hne
  have hlong : longer.rest = c :: (more ++ rest) := by rw [h, hcursor, List.cons_append]
  unfold Cursor.signedNumber at hread ⊢
  rw [hlong, List.head?_cons]
  rw [hcursor, List.head?_cons] at hread
  split at hread
  · next hminus =>
    obtain ⟨hdrop, hmore⟩ := h.drop hcursor
    obtain ⟨hsuffix, hlonger⟩ := hdrop.exists_number hends hread
    rw [hmore] at hsuffix
    rw [if_pos hminus, hcursor]
    exact ⟨hsuffix.trans (List.suffix_cons _ _), hlonger⟩
  · next hminus =>
    rw [if_neg hminus]
    exact h.exists_number hends hread

/-- The text of a number, read alone, gives this number. -/
def ReadsBack (number : JsonNumber) : Prop := parse number.text = .ok (.number number)

/-- Tries whether a number is read back. -/
def triesBack (number : JsonNumber) : Bool :=
  match parse number.text with
  | .ok (.number found) => found == number
  | _ => false

/-- Whether a number is read back can be tried. -/
theorem triesBack_iff {number : JsonNumber} : triesBack number = true ↔ ReadsBack number := by
  unfold triesBack ReadsBack
  split
  · next found heq =>
    rw [heq, beq_iff_eq]
    exact ⟨fun h => by rw [h], fun h => by injection h with h; injection h⟩
  · next hother => exact iff_of_false Bool.false_ne_true (hother number)

instance : DecidablePred ReadsBack := fun _ => decidable_of_iff _ triesBack_iff

-- The digits and the power of ten are rounded on their own, so not all doubles are read back.
example : ReadsBack (.double (.finite false 6509108836433920 (-46))) ∧
    ¬ ReadsBack (.double (.finite false 6530219459699557 (-46))) := by decide +kernel

/-- A text is read as a value if this is what it starts with and nothing but blanks follows. -/
theorem exists_of_parse {text : String} {value : Json} (h : parse text = .ok value) :
    ∃ node after, scanNode (2 * text.toList.length + 2) ⟨text.toList, .start⟩ = (node, after) ∧
      node.value .ofText = .ok value ∧ after.skipBlanks.rest = [] := by
  obtain ⟨found, hfound, htrailing⟩ := bind_eq_ok_iff.mp h
  split at htrailing
  · next hnone =>
    cases htrailing
    refine ⟨_, _, rfl, hfound, ?_⟩
    by_contra hmore
    have hsome : (Document.ofText text).trailing = some _ := if_neg (by simpa using hmore)
    cases hnone.symm.trans hsome
  · cases htrailing

/-- The text of a number that reads back starts as a number does, and as a number all of it is
read. -/
theorem ReadsBack.exists_signedNumber {number : JsonNumber} (h : ReadsBack number) :
    (∃ c more, number.text.toList = c :: more ∧ StartsNumber c) ∧
      ∃ stop after, Cursor.signedNumber ⟨number.text.toList, .start⟩ =
        (.number (.ok number) stop, after) ∧ after.rest = [] := by
  have hspaces : ∀ c ∈ number.text.toList, ¬ IsSpace c := fun _ => not_isSpace_of_mem_text
  have hskip : Cursor.skipBlanks ⟨number.text.toList, .start⟩ = ⟨number.text.toList, .start⟩ :=
    skipBlanks_eq_self fun c hc => hspaces c (List.mem_of_mem_head? hc)
  obtain ⟨node, after, hscan, hvalue, hend⟩ := exists_of_parse h
  obtain ⟨stop, rfl⟩ := Node.eq_number_of_value hvalue
  obtain ⟨c, more, hchars, hstarts⟩ := exists_startsNumber (congrArg Prod.fst hscan)
  rw [scanNode_of_startsNumber hchars hstarts, hskip] at hscan
  rw [hskip] at hchars
  refine ⟨⟨c, more, hchars, hstarts⟩, stop, after, hscan, ?_⟩
  -- What is left is a part of the text, so it would start with a blank if there were any.
  have hself : Cursor.Extends [] ⟨number.text.toList, .start⟩ ⟨number.text.toList, .start⟩ :=
    (List.append_nil _).symm
  obtain ⟨hsuffix, -⟩ := hself.exists_signedNumber (fun _ hc => absurd hc (by simp))
    (by rw [hchars]; exact List.cons_ne_nil c more) hscan
  rwa [skipBlanks_eq_self fun d hd => hspaces d (hsuffix.subset (List.mem_of_mem_head? hd))] at hend

/-- A number that reads back is read where it stands, also behind blanks. -/
theorem ReadsBack.exists_scanNode {number : JsonNumber} (h : ReadsBack number)
    {blanks rest : List Char} (hblanks : ∀ c ∈ blanks, IsSpace c) (hends : EndsNumber rest)
    (fuel : Nat) (mark : Mark) :
    ∃ stop after, scanNode (fuel + 1) ⟨blanks ++ (number.text.toList ++ rest), mark⟩ =
      (.number (.ok number) stop, ⟨rest, after⟩) := by
  obtain ⟨⟨c, more, hchars, hstarts⟩, stop, after, hread, hafter⟩ := h.exists_signedNumber
  have hspace : ¬ IsSpace c := not_isSpace_of_mem_text (by rw [hchars]; exact List.mem_cons_self)
  obtain ⟨start, hskip⟩ := exists_skipBlanks hblanks hspace (more ++ rest) mark
  rw [← List.cons_append, ← hchars] at hskip
  have hextends : Cursor.Extends rest ⟨number.text.toList ++ rest, start⟩
      ⟨number.text.toList, .start⟩ := rfl
  obtain ⟨-, stop', ⟨left, after'⟩, hread', hleft⟩ := hextends.exists_signedNumber hends
    (by rw [hchars]; exact List.cons_ne_nil c more) hread
  obtain rfl : left = rest := by rw [← List.nil_append rest, ← hafter]; exact hleft
  refine ⟨stop', after', Eq.trans ?_ hread'⟩
  have hnext : (Cursor.skipBlanks ⟨blanks ++ (number.text.toList ++ left), mark⟩).rest =
      c :: (more ++ left) := by
    rw [hskip, hchars, List.cons_append]
  rw [scanNode_of_startsNumber hnext hstarts, hskip]

end Conventions.Json
