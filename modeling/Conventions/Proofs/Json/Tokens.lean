import Conventions.Json.Printer
import Conventions.Json.Record
import Conventions.Proofs.Except

/-!
# Words and strings where they stand

What is written for a word or a string is read as it, wherever it stands and whatever follows.
-/

namespace Conventions.Json

/-! ### Blanks -/

/-- A character that may stand between two others that mean something. -/
def IsSpace (c : Char) : Prop := c = ' ' ∨ c = '\n' ∨ c = '\t' ∨ c = '\r'

instance : DecidablePred IsSpace := fun _ => inferInstanceAs (Decidable (_ ∨ _))

/-- Nothing is passed over where no blank comes next. -/
theorem skipBlanks_eq_self {cursor : Cursor} (h : ∀ c ∈ cursor.rest.head?, ¬ IsSpace c) :
    cursor.skipBlanks = cursor := by
  obtain ⟨rest, mark⟩ := cursor
  cases rest with
  | nil => rfl
  | cons c rest => exact if_neg (h c rfl)

/-- Nothing is passed over in front of a character that is no blank. -/
theorem skipBlanks_cons {c : Char} (h : ¬ IsSpace c) (rest : List Char) (mark : Mark) :
    Cursor.skipBlanks ⟨c :: rest, mark⟩ = ⟨c :: rest, mark⟩ := if_neg h

/-- Blanks in front of another character are passed over. -/
theorem exists_skipBlanks {blanks : List Char} (h : ∀ c ∈ blanks, IsSpace c) {c : Char}
    (hc : ¬ IsSpace c) (rest : List Char) (mark : Mark) :
    ∃ stop, Cursor.skipBlanks ⟨blanks ++ c :: rest, mark⟩ = ⟨c :: rest, stop⟩ := by
  unfold Cursor.skipBlanks
  induction blanks generalizing mark with
  | nil => exact ⟨mark, if_neg hc⟩
  | cons blank blanks ih =>
    obtain ⟨hblank, hblanks⟩ := List.forall_mem_cons.mp h
    obtain ⟨stop, hstop⟩ := ih hblanks (mark.after blank)
    refine ⟨stop, Eq.trans ?_ hstop⟩
    exact if_pos hblank

/-! ### Words -/

/-- A word is read as what it stands for. -/
theorem exists_word (value : Mark → Node) (letters rest : List Char) (mark : Mark) :
    ∃ stop, Cursor.word value ⟨letters ++ rest, mark⟩ letters = (value stop, ⟨rest, stop⟩) := by
  induction letters generalizing mark with
  | nil => exact ⟨mark, rfl⟩
  | cons c letters ih =>
    obtain ⟨stop, hstop⟩ := ih (mark.after c)
    refine ⟨stop, Eq.trans ?_ hstop⟩
    exact if_pos rfl

/-! ### Strings -/

/-- The escape with four digits that is written for a control character stands for it. -/
theorem hexValue4?_hexDigit {n : Nat} (h : n < 32) :
    hexValue4? '0' '0' (hexDigit (n / 16)) (hexDigit n) = some n := by
  revert n
  decide +kernel

section

-- One equation of `scanString` stands for two characters, since an escape has two. For one character
-- the definition itself is opened.
variable {c : Char} (before rest : List Char) (mark : Mark)

/-- An escape of one letter is read as the character that it stands for. -/
theorem exists_scanString_letter {letter : Char} (hunit : letter ≠ 'u')
    (hmeant : simpleEscape? letter = some c) :
    ∃ stop, scanString ⟨before, none, none⟩ mark ('\\' :: letter :: rest) =
      scanString ⟨c :: before, none, none⟩ stop rest := by
  refine ⟨(mark.after '\\').after letter, ?_⟩
  delta scanString
  refine Eq.trans (if_pos rfl) (Eq.trans (if_neg hunit) ?_)
  dsimp only
  rw [hmeant]
  rfl

/-- A unit below the surrogates is a character. -/
theorem pushUnit_of_lt (h : c.toNat < 32) :
    StringSoFar.pushUnit ⟨before, none, none⟩ c.toNat mark = ⟨c :: before, none, none⟩ := by
  have hnotLast : ¬ (0xDC00 ≤ c.toNat ∧ c.toNat ≤ 0xDFFF) := by omega
  have hnotFirst : ¬ (0xD800 ≤ c.toNat ∧ c.toNat ≤ 0xDBFF) := by omega
  simp [StringSoFar.pushUnit, StringSoFar.push, hnotLast, hnotFirst]

/-- The escape with four digits that is written for a control character is read as it. -/
theorem exists_scanString_unit (h : c.toNat < 32) :
    ∃ stop, scanString ⟨before, none, none⟩ mark
        (['\\', 'u', '0', '0', hexDigit (c.toNat / 16), hexDigit c.toNat] ++ rest) =
      scanString ⟨c :: before, none, none⟩ stop rest := by
  refine ⟨((mark.after '\\').after 'u').afterAll
    ['0', '0', hexDigit (c.toNat / 16), hexDigit c.toNat],
    Eq.trans (if_pos rfl) (Eq.trans (if_pos rfl) ?_)⟩
  dsimp only
  rw [hexValue4?_hexDigit h]
  dsimp only
  rw [pushUnit_of_lt _ _ h]
  rfl

/-- A character that is no escape and no quote is read as itself. -/
theorem scanString_plain (hbackslash : c ≠ '\\') (hquote : c ≠ '"') (h : ¬ c.toNat < 32) :
    scanString ⟨before, none, none⟩ mark (c :: rest) =
      scanString ⟨c :: before, none, none⟩ (mark.after c) rest := by
  delta scanString
  exact Eq.trans (if_neg hbackslash) (Eq.trans (if_neg hquote) (if_neg h))

/-- A string ends at its closing quote. -/
theorem scanString_quote : scanString ⟨before, none, none⟩ mark ('"' :: rest) =
    .closed (.ok (String.ofList before.reverse)) ⟨rest, mark.after '"'⟩ := by
  delta scanString
  exact Eq.trans (if_neg (by decide)) (if_pos rfl)

/-- What is written for a character inside of a string is read as this character. -/
theorem exists_scanString_escapeChar (c : Char) :
    ∃ stop, scanString ⟨before, none, none⟩ mark (escapeChar c ++ rest) =
      scanString ⟨c :: before, none, none⟩ stop rest := by
  have hletter {letter : Char} (hunit : letter ≠ 'u')
      (hmeant : simpleEscape? letter = some c) :=
    exists_scanString_letter before rest mark hunit hmeant
  unfold escapeChar
  split_ifs with hquote hbackslash hfeed hreturn htab hback hform hcontrol
  · exact hletter (by decide) (by rw [hquote]; rfl)
  · exact hletter (by decide) (by rw [hbackslash]; rfl)
  · exact hletter (by decide) (by rw [hfeed]; rfl)
  · exact hletter (by decide) (by rw [hreturn]; rfl)
  · exact hletter (by decide) (by rw [htab]; rfl)
  · exact hletter (by decide) (by rw [← Char.ofNat_toNat c, hback]; rfl)
  · exact hletter (by decide) (by rw [← Char.ofNat_toNat c, hform]; rfl)
  · exact exists_scanString_unit before rest mark hcontrol
  · exact ⟨mark.after c, scanString_plain before rest mark hbackslash hquote hcontrol⟩

end

/-- A string is read up to its closing quote. -/
theorem exists_scanString (text rest before : List Char) (mark : Mark) :
    ∃ stop, scanString ⟨before, none, none⟩ mark (text.flatMap escapeChar ++ '"' :: rest) =
      .closed (.ok (String.ofList (before.reverse ++ text))) ⟨rest, stop⟩ := by
  induction text generalizing before mark with
  | nil =>
    refine ⟨mark.after '"', ?_⟩
    rw [List.flatMap_nil, List.nil_append, List.append_nil]
    exact scanString_quote before rest mark
  | cons c text ih =>
    obtain ⟨next, hnext⟩ := exists_scanString_escapeChar before
      (text.flatMap escapeChar ++ '"' :: rest) mark c
    obtain ⟨stop, hstop⟩ := ih (c :: before) next
    refine ⟨stop, ?_⟩
    rw [List.flatMap_cons, List.append_assoc, hnext, hstop, List.reverse_cons, List.append_assoc]
    rfl

end Conventions.Json
