import Conventions.Regex.Parser
import Mathlib.Tactic.Common

/-!
# Escaped texts are read as they are

A text of which every character that could mean something else has a backslash before it is
read as one expression for each of its characters. What follows the text does not matter, so
the lemmas are about any rest, and about any items that were read before.
-/

namespace Conventions.Regex

open Reader

/-- The state of a reader that has met no flags and no names. -/
def plainState (rest : List Char) : ReaderState := ⟨rest, .initial, []⟩

/-- An expression whose syntax has no parts. -/
def leaf (regex : Regex) : Parsed := ⟨regex, 0⟩

variable {fuel : Nat} {items : List (Option Parsed)} {c : Char} {rest rest' : List Char}

/-- A reader goes on from where the one before it has stopped. -/
theorem Reader.run_bind {α β : Type} {first : Reader α} {next : α → Reader β} {value : α}
    {state state' : ReaderState} (h : first.run state = .ok (value, state')) :
    (first >>= next).run state = (next value).run state' := by
  rw [StateT.run_bind, h]
  rfl

/-- Nothing is passed over as blank. -/
theorem Reader.skipBlanks_plain : skipBlanks.run (plainState rest) = .ok ((), plainState rest) :=
  rfl

/-- The next character is seen. -/
theorem Reader.peek?_plain :
    peek?.run (plainState rest) = .ok (rest.head?, plainState rest) := rfl

/-- Characters are passed over. -/
theorem Reader.drop_plain (count : Nat) :
    (drop count).run (plainState rest) = .ok ((), plainState (rest.drop count)) := rfl

/-! ### Single items -/

/-- The characters that are no items of their own. -/
def structural : List Char := ['|', ')', '(', '[', '?', '*', '+', '{']

/-- What a character starts is read as an item, unless it belongs to the structure of the
expression. -/
theorem readSequence_primitive {regex : Regex} (hc : c ∉ structural)
    (hread : (readPrimitive c).run (plainState (c :: rest)) = .ok (regex, plainState rest')) :
    (readSequence (fuel + 1) items).run (plainState (c :: rest)) =
      (readSequence fuel (some (leaf regex) :: items)).run (plainState rest') := by
  simp only [structural, List.mem_cons, List.not_mem_nil, or_false, not_or] at hc
  obtain ⟨hbar, hclose, hopen, hbracket, hoptional, hstar, hplus, hbrace⟩ := hc
  rw [readSequence.eq_def]
  dsimp only
  rw [run_bind skipBlanks_plain, run_bind peek?_plain]
  split
  · next h => cases h
  · next h => exact absurd (Option.some.inj h) hbar
  · next h => exact absurd (Option.some.inj h) hclose
  · next d _ _ h =>
    obtain rfl := Option.some.inj h
    have hrepeated : ¬ (c = '?' ∨ c = '*' ∨ c = '+') := by simp [hoptional, hstar, hplus]
    rw [if_neg hopen, if_neg hbracket, if_neg hrepeated, if_neg hbrace]
    exact run_bind hread

/-- A character without a meaning of its own is read as itself. -/
theorem readPrimitive_char (h : isMeta c = false) :
    (readPrimitive c).run (plainState (c :: rest)) = .ok (char c, plainState rest) := by
  have hne : ∀ d : Char, isMeta d = true → c ≠ d := by
    rintro d hd rfl
    rw [h] at hd
    cases hd
  rw [readPrimitive, run_bind rfl, if_neg (hne '\\' rfl), run_bind (drop_plain 1),
    if_neg (hne '.' rfl), if_neg (hne '^' rfl), if_neg (hne '$' rfl)]
  rfl

/-- The sign for the start of a text is read. -/
theorem readPrimitive_start : (readPrimitive '^').run (plainState ('^' :: rest)) =
    .ok (.look .textStart, plainState rest) := rfl

/-- The sign for the end of a text is read. -/
theorem readPrimitive_end : (readPrimitive '$').run (plainState ('$' :: rest)) =
    .ok (.look .textEnd, plainState rest) := rfl

/-- The sign for any character is read. -/
theorem readPrimitive_any : (readPrimitive '.').run (plainState ('.' :: rest)) =
    .ok (.one (.complement (.single '\n')), plainState rest) := rfl

/-- Characters that could mean something else stand for themselves behind a backslash. -/
theorem standsForItself_of_isMeta (h : isMeta c = true) : standsForItself c = true := by
  have hall : metaChars.all standsForItself = true := by decide
  exact List.all_eq_true.mp hall c (List.contains_iff_mem.mp h)

/-- A character that stands for itself behind a backslash is read as itself. -/
theorem readEscape_of_standsForItself (h : standsForItself c = true) :
    readEscape.run (plainState ('\\' :: c :: rest)) = .ok (.char c false, plainState rest) := by
  have hne : ∀ d : Char, d.isAlphanum = true → c ≠ d := by
    rintro d hd rfl
    simp [standsForItself, hd] at h
  have hdigit : c.isDigit = false := by
    by_contra hdigit
    simp [standsForItself, Char.isAlphanum, hdigit] at h
  rw [readEscape, run_bind (drop_plain 1), run_bind rfl, run_bind peek?_plain]
  simp only [List.drop_succ_cons, List.drop_zero, List.head?_cons, hdigit, Bool.false_eq_true,
    ↓reduceIte, Char.reduceIsAlphaNum, hne, h]
  rfl

/-- A character behind a backslash is read as the character. -/
theorem readPrimitive_escaped (h : isMeta c = true) :
    (readPrimitive '\\').run (plainState ('\\' :: c :: rest)) = .ok (char c, plainState rest) := by
  rw [readPrimitive, run_bind rfl, if_pos rfl,
    run_bind (readEscape_of_standsForItself (standsForItself_of_isMeta h))]
  rfl

/-- The end of the text is the end of the items. -/
theorem readSequence_end : (readSequence (fuel + 1) items).run (plainState []) =
    .ok (joinItems items, plainState []) := rfl

/-! ### Repetitions -/

/-- The bounds of the repetition that a character stands for. -/
def boundsOf (c : Char) : Nat × Option Nat :=
  if c = '?' then (0, some 1) else if c = '*' then (0, none) else (1, none)

/-- Without a question mark there is no lazy repetition. -/
theorem skipLazy_plain (h : rest.head? ≠ some '?') :
    skipLazy.run (plainState rest) = .ok ((), plainState rest) := by
  rw [skipLazy, run_bind peek?_plain, if_neg h]
  rfl

/-- A sign of repetition makes a repetition of the item before it. -/
theorem readSequence_repeated {body : Parsed} (hc : c = '?' ∨ c = '*' ∨ c = '+')
    (hrest : rest.head? ≠ some '?') :
    (readSequence (fuel + 1) (some body :: items)).run (plainState (c :: rest)) =
      (readSequence fuel
        (some ⟨.times body.regex (boundsOf c).1 (boundsOf c).2, body.height + 1⟩ :: items)).run
        (plainState rest) := by
  rw [readSequence.eq_def]
  dsimp only
  rw [run_bind skipBlanks_plain, run_bind peek?_plain]
  rcases hc with rfl | rfl | rfl
  · exact (run_bind (drop_plain 1)).trans (run_bind (skipLazy_plain hrest))
  · exact (run_bind (drop_plain 1)).trans (run_bind (skipLazy_plain hrest))
  · exact (run_bind (drop_plain 1)).trans (run_bind (skipLazy_plain hrest))

/-! ### Texts -/

/-- Items for the characters of a text. -/
def textItems (text : List Char) : List Parsed := text.map fun c => leaf (char c)

/-- A character that is written to stand for itself is read as itself. -/
theorem readSequence_escapeChar (c : Char) (rest : List Char) :
    (readSequence (fuel + 1) items).run (plainState (escapeChar c ++ rest)) =
      (readSequence fuel (some (leaf (char c)) :: items)).run (plainState rest) := by
  unfold escapeChar
  by_cases hc : isMeta c = true
  · rw [if_pos hc]
    exact readSequence_primitive (by decide) (readPrimitive_escaped hc)
  · have hplain : isMeta c = false := by simpa using hc
    rw [if_neg hc]
    refine readSequence_primitive (fun hstructural => hc ?_) (readPrimitive_char hplain)
    have hall : structural.all isMeta = true := by decide
    exact List.all_eq_true.mp hall c hstructural

/-- A text with its marks of escape is read as the items for its characters. -/
theorem readSequence_escape (text rest : List Char) (items : List (Option Parsed)) :
    (readSequence (text.length + fuel) items).run (plainState (text.flatMap escapeChar ++ rest)) =
      (readSequence fuel (((textItems text).map some).reverse ++ items)).run
        (plainState rest) := by
  induction text generalizing items with
  | nil => simp [textItems]
  | cons c text ih =>
    have hfuel : (c :: text).length + fuel = text.length + fuel + 1 := by
      simp only [List.length_cons]
      omega
    rw [List.flatMap_cons, List.append_assoc, hfuel, readSequence_escapeChar, ih]
    simp [textItems]

/-- A text does not get shorter when it is escaped. -/
theorem length_le_escape (text : List Char) : text.length ≤ (text.flatMap escapeChar).length := by
  induction text with
  | nil => simp
  | cons c text ih =>
    have hc : 1 ≤ (escapeChar c).length := by
      unfold escapeChar
      split <;> simp
    rw [List.flatMap_cons, List.length_append, List.length_cons]
    omega

/-- An escaped text starts with no sign of repetition. -/
theorem head?_escape_append_ne (text : List Char) (h : rest.head? ≠ some '?') :
    (text.flatMap escapeChar ++ rest).head? ≠ some '?' := by
  cases text with
  | nil => exact h
  | cons c text =>
    rw [List.flatMap_cons]
    unfold escapeChar
    split
    · simp
    · next hc =>
      simp only [List.cons_append, List.nil_append, List.head?_cons, ne_eq, Option.some.injEq]
      rintro rfl
      exact hc rfl

/-! ### Items put together -/

/-- Items one after the other are a sequence. -/
theorem regex_joinItems (parts : List Parsed) :
    (joinItems (parts.map some).reverse).regex = sequence (parts.map (·.regex)) := by
  simp [joinItems]

/-- No greatest height is above a bound that all heights keep. -/
theorem foldl_height_le {parts : List Parsed} {height bound : Nat} (hheight : height ≤ bound)
    (h : ∀ part ∈ parts, part.height ≤ bound) :
    parts.foldl (fun height part => max height part.height) height ≤ bound := by
  induction parts generalizing height with
  | nil => exact hheight
  | cons part rest ih =>
    obtain ⟨hpart, hrest⟩ := List.forall_mem_cons.mp h
    exact ih (Nat.max_le.mpr ⟨hheight, hpart⟩) hrest

/-- A sequence is one level higher than its items, or less. -/
theorem height_joinItems_le {parts : List Parsed} (bound : Nat)
    (h : ∀ part ∈ parts, part.height ≤ bound) :
    (joinItems (parts.map some).reverse).height ≤ bound + 1 := by
  have hparts := foldl_height_le (Nat.zero_le bound) h
  simp only [joinItems, List.reverse_reverse, List.filterMap_map, Function.comp_def,
    List.length_map, id, List.filterMap_some]
  split
  · omega
  · omega

/-- Items for characters have no parts. -/
theorem height_of_mem_textItems {text : List Char} {part : Parsed} (h : part ∈ textItems text) :
    part.height = 0 := by
  obtain ⟨c, -, rfl⟩ := List.mem_map.mp h
  rfl

/-- What is read as items up to the end of a text, and not too high, is an expression. -/
theorem read_of_readSequence {text : String} {parts : List Parsed}
    (hread : (readSequence (4 * text.toList.length + 3) []).run (plainState text.toList) =
      .ok (joinItems (parts.map some).reverse, plainState []))
    (hheight : ∀ part ∈ parts, part.height < nestLimit) :
    read text = .ok (sequence (parts.map (·.regex))) := by
  have halternatives : (readAlternatives (4 * text.toList.length + 4) none).run
      (plainState text.toList) = .ok (joinItems (parts.map some).reverse, plainState []) := by
    rw [readAlternatives, run_bind hread]
    rfl
  have hlow : ¬ nestLimit < (joinItems (parts.map some).reverse).height := by
    have hle := height_joinItems_le (nestLimit - 1) fun part hpart =>
      Nat.le_sub_one_of_lt (hheight part hpart)
    unfold nestLimit at hle ⊢
    omega
  unfold read
  rw [← regex_joinItems]
  change (readAlternatives (4 * text.toList.length + 4) none).run (plainState text.toList) >>= _ = _
  rw [halternatives]
  simp [bind, Except.bind, plainState, hlow, pure, Except.pure]

end Conventions.Regex
