import Conventions.Text.Blank
import Mathlib.Data.List.DropRight
import Mathlib.Tactic.Common

/-!
# Blanks, words and lines

Blanks at the ends of a text do not count for its words, and where a text is trimmed it is trimmed
up to the first character that is not blank. The lines of a text are those up to the last line
feed of a first part of it, and then those of the rest.
-/

namespace Conventions.Text

variable {text rest blanks : List Char}

/-! ### Blanks at the start and at the end -/

/-- All characters of a text are blank. -/
def AreBlank (text : List Char) : Prop := ∀ c ∈ text, isBlank c = true

instance (text : List Char) : Decidable (AreBlank text) :=
  List.decidableBAll _ text

/-- Nothing is left of blanks. -/
theorem trimStart_eq_nil_iff : trimStart text = [] ↔ AreBlank text := List.dropWhile_eq_nil_iff

/-- Blanks in front of a text are trimmed. -/
theorem trimStart_append_of_blank (h : AreBlank blanks) (rest : List Char) :
    trimStart (blanks ++ rest) = trimStart rest :=
  List.dropWhile_append_of_pos h

/-- If a text is not blank, nothing behind it is trimmed at its start. -/
theorem trimStart_append (h : trimStart text ≠ []) (rest : List Char) :
    trimStart (text ++ rest) = trimStart text ++ rest := by
  unfold trimStart at h ⊢
  rw [List.dropWhile_append, if_neg (by simpa using h)]

/-- A text that starts with another character than a blank is not trimmed at its start. -/
theorem trimStart_cons {c : Char} (h : isBlank c = false) (rest : List Char) :
    trimStart (c :: rest) = c :: rest := by
  simp [trimStart, h]

/-- Trimming at the end is what the library calls dropping from the right. -/
theorem trimEnd_eq_rdropWhile (text : List Char) : trimEnd text = text.rdropWhile isBlank := rfl

/-- Blanks behind a text are trimmed. -/
theorem trimEnd_append_of_blank (text : List Char) (h : AreBlank blanks) :
    trimEnd (text ++ blanks) = trimEnd text := by
  unfold trimEnd
  rw [List.reverse_append, List.dropWhile_append_of_pos fun c hc => h c (List.mem_reverse.mp hc)]

/-- If a text is not blank, nothing in front of it is trimmed at its end. -/
theorem trimEnd_append (text : List Char) (h : trimEnd rest ≠ []) :
    trimEnd (text ++ rest) = text ++ trimEnd rest := by
  unfold trimEnd at h ⊢
  rw [List.reverse_append, List.dropWhile_append, if_neg (by simpa using h), List.reverse_append,
    List.reverse_reverse]

/-- A text that starts with another character than a blank is trimmed behind it. -/
theorem trimEnd_cons {c : Char} (h : isBlank c = false) (rest : List Char) :
    trimEnd (c :: rest) = c :: trimEnd rest := by
  have hone : [c].rdropWhile isBlank = [c] := by simp [List.rdropWhile_singleton, h]
  by_cases hblank : trimEnd rest = []
  · have hrest : AreBlank rest := by
      rwa [trimEnd_eq_rdropWhile, List.rdropWhile_eq_nil_iff] at hblank
    rw [hblank, ← hone]
    exact trimEnd_append_of_blank [c] hrest
  · exact trimEnd_append [c] hblank

/-- What is trimmed at the end of a text is blank. -/
theorem exists_eq_trimEnd_append (text : List Char) :
    ∃ blanks, AreBlank blanks ∧ text = trimEnd text ++ blanks := by
  refine ⟨(text.reverse.takeWhile isBlank).reverse, fun c hc => ?_, ?_⟩
  · exact List.mem_takeWhile_imp (List.mem_reverse.mp hc)
  · unfold trimEnd
    rw [← List.reverse_append, List.takeWhile_append_dropWhile, List.reverse_reverse]

/-- A text is what is left of it by trimming, between blanks. -/
theorem exists_eq_append_trim (text : List Char) :
    ∃ first last, AreBlank first ∧ AreBlank last ∧ text = first ++ (trim text ++ last) := by
  obtain ⟨last, hlast, htrim⟩ := exists_eq_trimEnd_append (trimStart text)
  refine ⟨text.takeWhile isBlank, last, fun c hc => List.mem_takeWhile_imp hc, hlast, ?_⟩
  rw [trim, ← htrim]
  exact List.takeWhile_append_dropWhile.symm

/-- Blanks behind a text are trimmed, whatever the text is. -/
theorem trim_append_of_blank (text : List Char) (h : AreBlank blanks) :
    trim (text ++ blanks) = trim text := by
  unfold trim
  by_cases hblank : trimStart text = []
  · have hall := trimStart_append_of_blank (trimStart_eq_nil_iff.mp hblank) blanks
    rw [hall, hblank, trimStart_eq_nil_iff.mpr h]
  · rw [trimStart_append hblank, trimEnd_append_of_blank _ h]

/-- A character that is not blank does not occur in blanks. -/
theorem AreBlank.notMem (h : AreBlank blanks) {c : Char} (hc : isBlank c = false) : c ∉ blanks := by
  intro hmem
  rw [h c hmem] at hc
  cases hc

/-- Nothing is left of a blank text by trimming, and of no other. -/
theorem trim_eq_nil_iff : trim text = [] ↔ AreBlank text := by
  constructor
  · intro h
    obtain ⟨first, last, hfirst, hlast, htext⟩ := exists_eq_append_trim text
    rw [h, List.nil_append] at htext
    rw [htext]
    exact List.forall_mem_append.mpr ⟨hfirst, hlast⟩
  · intro h
    rw [trim, trimStart_eq_nil_iff.mpr h]
    rfl

/-- Trimming keeps what is not blank. -/
theorem mem_trim_iff {c : Char} (h : isBlank c = false) : c ∈ trim text ↔ c ∈ text := by
  obtain ⟨first, last, hfirst, hlast, htext⟩ := exists_eq_append_trim text
  conv_rhs => rw [htext, List.mem_append, or_iff_right (hfirst.notMem h), List.mem_append,
    or_iff_left (hlast.notMem h)]

/-! ### Words -/

/-- Pieces are cut at a separator. -/
theorem splitWhere_append_cons {isEnd : Char → Bool} {c : Char} (h : isEnd c = true)
    (text rest : List Char) :
    splitWhere isEnd (text ++ c :: rest) = splitWhere isEnd text ++ splitWhere isEnd rest := by
  have hnever : ∀ text, splitWhere isEnd text ≠ [] := by
    intro text
    cases text with
    | nil => simp [splitWhere]
    | cons first more =>
      unfold splitWhere
      split
      · simp
      · split <;> simp
  induction text with
  | nil => simp [splitWhere, h]
  | cons first more ih =>
    rw [List.cons_append, splitWhere, splitWhere, ih]
    split
    · rfl
    · obtain ⟨piece, pieces, hpieces⟩ := List.exists_cons_of_ne_nil (hnever more)
      simp [hpieces]

/-- Words are cut at a blank. -/
theorem words_append_cons {c : Char} (h : isBlank c = true) (text rest : List Char) :
    words (text ++ c :: rest) = words text ++ words rest := by
  unfold words
  rw [splitWhere_append_cons h, List.filter_append]

/-- There are no words in blanks. -/
theorem words_of_blank (h : AreBlank blanks) : words blanks = [] := by
  induction blanks with
  | nil => rfl
  | cons c blanks ih =>
    obtain ⟨hc, hblanks⟩ := List.forall_mem_cons.mp h
    exact (words_append_cons hc [] blanks).trans (ih hblanks)

/-- Blanks behind a text add no words. -/
theorem words_append_of_blank (text : List Char) (h : AreBlank blanks) :
    words (text ++ blanks) = words text := by
  cases blanks with
  | nil => rw [List.append_nil]
  | cons c blanks =>
    obtain ⟨hc, hblanks⟩ := List.forall_mem_cons.mp h
    rw [words_append_cons hc, words_of_blank hblanks, List.append_nil]

/-- Blanks in front of a text add no words. -/
theorem words_append_of_blank_left (h : AreBlank blanks) (text : List Char) :
    words (blanks ++ text) = words text := by
  induction blanks with
  | nil => rfl
  | cons c blanks ih =>
    obtain ⟨hc, hblanks⟩ := List.forall_mem_cons.mp h
    exact (words_append_cons hc [] _).trans (ih hblanks)

/-- The first word of a text that does not start with a blank starts as the text does. -/
theorem exists_words_cons {c : Char} (h : isBlank c = false) (rest : List Char) :
    ∃ word others, words (c :: rest) = (c :: word) :: others := by
  unfold words
  rw [splitWhere, if_neg (by simp [h])]
  split
  · exact ⟨[], [], by simp⟩
  · next piece pieces _ => exact ⟨piece, pieces.filter (!·.isEmpty), by simp⟩

/-! ### Lines -/

/-- A line that is ended by a line feed, without the carriage return before it. -/
def ended (line : List Char) : List Char :=
  match line.reverse with
  | '\r' :: shorter => shorter.reverse
  | _ => line

/-- Only a carriage return at the end of a line belongs to its end. -/
theorem ended_append_cons (line : List Char) {c : Char} (h : c ≠ '\r') (rest : List Char) :
    ended (line ++ c :: rest) = line ++ c :: ended rest := by
  unfold ended
  induction rest using List.reverseRecOn with
  | nil =>
    rw [List.reverse_append]
    split
    · next hreturn => simp [h] at hreturn
    · rfl
  | append_singleton rest last ih =>
    rw [← List.cons_append, ← List.append_assoc, List.reverse_append]
    by_cases hlast : last = '\r'
    · simp [hlast]
    · simp [hlast]

/-- A carriage return at the end of a line belongs to its end. -/
theorem ended_append_return (line : List Char) : ended (line ++ ['\r']) = line := by
  simp [ended]

/-- A line without a carriage return at its end is as it is. -/
theorem ended_of_getLast?_ne {line : List Char} (h : line.getLast? ≠ some '\r') :
    ended line = line := by
  unfold ended
  split
  · next shorter hreturn =>
    rw [← List.head?_reverse, hreturn] at h
    exact absurd rfl h
  · rfl

/-- A line that has been read so far is ended by a line feed. -/
theorem linesAfter_feed (line rest : List Char) :
    linesAfter line.reverse ('\n' :: rest) = ended line :: lines rest := by
  have hstep : linesAfter line.reverse ('\n' :: rest) =
      (match line.reverse with
        | '\r' :: shorter => shorter.reverse
        | _ => line.reverse.reverse) :: linesAfter [] rest := if_pos rfl
  rw [hstep, List.reverse_reverse]
  rfl

/-- Characters of a line are read into it. -/
theorem linesAfter_append {part : List Char} (h : '\n' ∉ part) (line rest : List Char) :
    linesAfter line (part ++ rest) = linesAfter (part.reverse ++ line) rest := by
  induction part generalizing line with
  | nil => rfl
  | cons c part ih =>
    rw [List.mem_cons, not_or] at h
    have hstep : linesAfter line (c :: (part ++ rest)) = linesAfter (c :: line) (part ++ rest) :=
      if_neg (Ne.symm h.1)
    rw [List.cons_append, hstep, ih h.2, List.reverse_cons, List.append_assoc,
      List.singleton_append]

/-- A line feed ends a line. -/
theorem lines_append_cons {line : List Char} (h : '\n' ∉ line) (rest : List Char) :
    lines (line ++ '\n' :: rest) = ended line :: lines rest := by
  rw [lines, linesAfter_append h, List.append_nil, linesAfter_feed]

/-- A text without a line feed is one line, unless it is empty. -/
theorem lines_of_notMem {line : List Char} (h : '\n' ∉ line) (hsome : line ≠ []) :
    lines line = [line] := by
  have hread := linesAfter_append h [] []
  rw [List.append_nil, List.append_nil] at hread
  rw [lines, hread, linesAfter, if_neg (by simpa using hsome), List.reverse_reverse]

/-- What stands before the last line of a first part of a text are lines of their own. -/
theorem exists_lines_append (before : List Char) : ∃ first last, '\n' ∉ last ∧
    (before = last ∨ ∃ whole, before = whole ++ '\n' :: last) ∧
    ∀ rest, lines (before ++ rest) = first ++ lines (last ++ rest) := by
  induction hlength : before.length using Nat.strong_induction_on generalizing before with
  | _ length ih =>
    by_cases hfeed : '\n' ∈ before
    · obtain ⟨line, more, rfl, hline⟩ := List.eq_append_cons_of_mem hfeed
      have hless : more.length < length := by
        rw [← hlength, List.length_append, List.length_cons]
        omega
      obtain ⟨first, last, hlast, hends, hlines⟩ := ih _ hless more rfl
      refine ⟨ended line :: first, last, hlast, Or.inr ?_, fun rest => ?_⟩
      · rcases hends with rfl | ⟨whole, rfl⟩
        · exact ⟨line, rfl⟩
        · exact ⟨line ++ '\n' :: whole, by simp⟩
      · rw [List.append_assoc, List.cons_append, lines_append_cons hline, hlines,
          List.cons_append]
    · exact ⟨[], before, hfeed, Or.inl rfl, fun _ => rfl⟩

end Conventions.Text
