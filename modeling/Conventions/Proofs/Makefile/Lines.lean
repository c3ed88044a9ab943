import Conventions.Content.Makefile
import Mathlib.Data.List.TakeWhile
import Mathlib.Tactic.Common

/-!
# What a line of a Makefile says

A line belongs to a recipe, says nothing, is a rule, or is something else, which ends a rule as
another rule does. Which of these it is, and what a rule names, is told here by what has to be in
the line. The reader of lines finds just that.
-/

namespace Conventions.Makefile

/-- The line belongs to a recipe: it starts with a tab. -/
def IsRecipe (line : List Char) : Prop := line.head? = some '\t'

/-- The line says nothing: it is blank or a comment. -/
def IsIdle (line : List Char) : Prop :=
  ¬ IsRecipe line ∧ (Text.trim line = [] ∨ (Text.trim line).head? = some '#')

/-- What stands before the first colon of a line and behind it. -/
structure IsCut (line before after : List Char) : Prop where
  trim_eq : Text.trim line = before ++ ':' :: after
  isFirst : ':' ∉ before

/-- What stands behind a colon and behind a second one, if it is doubled. -/
def behindColons : List Char → List Char
  | ':' :: rest => rest
  | rest => rest

/-- The part of a rule with the prerequisites: it ends where a command or a comment starts. -/
def prerequisitePart (after : List Char) : List Char :=
  (behindColons after).takeWhile fun c => c != ';' && c != '#'

/-- The targets that are named before the colon of a rule, without special ones. -/
def targetsIn (before : List Char) : List (List Char) :=
  (Text.words before).filter (!isSpecial ·)

/-- The line assigns to a variable: there is an equals sign before the colon, right behind it or
behind a second one, or among the prerequisites. -/
def IsAssignment (before after : List Char) : Prop :=
  '=' ∈ before ∨ ['='] <+: after ∨ [':', '='] <+: after ∨ '=' ∈ prerequisitePart after

instance (before after : List Char) : Decidable (IsAssignment before after) :=
  inferInstanceAs (Decidable (_ ∨ _ ∨ _ ∨ _))

/-- What a line says. -/
inductive Reads : List Char → Line → Prop
  | recipe (command : List Char) : Reads ('\t' :: command) (.recipe (Text.trimEnd command))
  | nothing {line : List Char} (hidle : IsIdle line) : Reads line .nothing
  | rule {line before after : List Char} (hrecipe : ¬ IsRecipe line) (hidle : ¬ IsIdle line)
      (hcut : IsCut line before after) (hassignment : ¬ IsAssignment before after)
      (hnames : targetsIn before ≠ []) :
      Reads line (.rule (targetsIn before) (Text.words (prerequisitePart after)))
  | other {line : List Char} (hrecipe : ¬ IsRecipe line) (hidle : ¬ IsIdle line)
      (hnone : ∀ before after, IsCut line before after →
        IsAssignment before after ∨ targetsIn before = []) :
      Reads line .other

/-! ### The reader -/

variable {line before after : List Char}

/-- A text is cut at the first colon in one way only. -/
theorem IsCut.unique {before' after' : List Char} (h : IsCut line before after)
    (h' : IsCut line before' after') : before = before' ∧ after = after' := by
  have heq : before ++ ':' :: after = before' ++ ':' :: after' := h.trim_eq.symm.trans h'.trim_eq
  rcases List.append_eq_append_iff.mp heq with ⟨more, hbefore, hafter⟩ | ⟨more, hbefore, hafter⟩
  · cases more with
    | nil => simp_all
    | cons c more =>
      obtain ⟨rfl, -⟩ := List.cons.inj hafter
      exact absurd (by simp [hbefore]) h'.isFirst
  · cases more with
    | nil => simp_all
    | cons c more =>
      obtain ⟨rfl, -⟩ := List.cons.inj hafter
      exact absurd (by simp [hbefore]) h.isFirst

/-- A line says one thing only. -/
theorem Reads.unique {kind kind' : Line} (h : Reads line kind) (h' : Reads line kind') :
    kind = kind' := by
  cases h with
  | recipe command =>
    cases h' with
    | recipe => rfl
    | nothing hidle => exact absurd rfl hidle.1
    | rule hrecipe => exact absurd rfl hrecipe
    | other hrecipe => exact absurd rfl hrecipe
  | nothing hidle =>
    cases h' with
    | recipe => exact absurd rfl hidle.1
    | nothing => rfl
    | rule _ hnot => exact absurd hidle hnot
    | other _ hnot => exact absurd hidle hnot
  | rule hrecipe hidle hcut hassignment hnames =>
    cases h' with
    | recipe => exact absurd rfl hrecipe
    | nothing hidle' => exact absurd hidle' hidle
    | rule _ _ hcut' =>
      obtain ⟨rfl, rfl⟩ := hcut.unique hcut'
      rfl
    | other _ _ hnone => exact ((hnone _ _ hcut).elim hassignment hnames).elim
  | other hrecipe hidle hnone =>
    cases h' with
    | recipe => exact absurd rfl hrecipe
    | nothing hidle' => exact absurd hidle' hidle
    | rule _ _ hcut hassignment hnames => exact ((hnone _ _ hcut).elim hassignment hnames).elim
    | other => rfl

/-- The part of a rule behind its colons is a rule, unless it assigns or nothing is named. -/
theorem classifyRule_eq (before after : List Char) : classifyRule before (behindColons after) =
    if '=' ∈ prerequisitePart after ∨ targetsIn before = [] then .other
    else .rule (targetsIn before) (Text.words (prerequisitePart after)) := by
  have hpart : ((behindColons after).takeWhile (· != ';')).takeWhile (· != '#') =
      prerequisitePart after := by
    rw [List.takeWhile_takeWhile, prerequisitePart]
    simp only [Bool.decide_and, Bool.decide_eq_true, Bool.and_comm]
  unfold classifyRule
  rw [hpart]
  simp [targetsIn]

/-- A colon that is not doubled has behind it all that follows. -/
theorem behindColons_of_forall_ne (h : ∀ rest, after ≠ ':' :: rest) :
    behindColons after = after := by
  unfold behindColons
  split
  · next rest => exact absurd rfl (h rest)
  · rfl

/-- A line with a colon is a rule, unless it assigns or nothing is named. -/
theorem classifyTrimmed_cut (h : ':' ∉ before) (after : List Char) :
    classifyTrimmed (before ++ ':' :: after) =
      if IsAssignment before after ∨ targetsIn before = [] then .other
      else .rule (targetsIn before) (Text.words (prerequisitePart after)) := by
  have hbefore : ∀ c ∈ before, (c != ':') = true := fun c hc => by
    simpa using fun heq : c = ':' => h (heq ▸ hc)
  have htake : (before ++ ':' :: after).takeWhile (· != ':') = before := by
    rw [List.takeWhile_append_of_pos hbefore]
    simp
  have hdrop : (before ++ ':' :: after).dropWhile (· != ':') = ':' :: after := by
    rw [List.dropWhile_append_of_pos hbefore]
    simp
  have hrule := classifyRule_eq before after
  simp only [classifyTrimmed, htake, hdrop]
  by_cases hequals : '=' ∈ before
  · simp [IsAssignment, hequals]
  rw [if_neg (by simpa using hequals)]
  -- The text behind the colon is taken apart as the reader does it.
  split
  · simp [IsAssignment]
  · simp [IsAssignment]
  · next rest hnot =>
    have hdoubled : ¬ [':', '='] <+: ':' :: rest := by
      rintro ⟨more, hmore⟩
      exact hnot more (by simpa using hmore.symm)
    rw [behindColons] at hrule
    simp [hrule, IsAssignment, hequals, hdoubled]
  · next hsingle hdouble hcolon =>
    rw [behindColons_of_forall_ne hcolon] at hrule
    have hsingle' : ¬ ['='] <+: after := by
      rintro ⟨more, rfl⟩
      exact hsingle more rfl
    have hdouble' : ¬ [':', '='] <+: after := by
      rintro ⟨more, rfl⟩
      exact hdouble more rfl
    simp [hrule, IsAssignment, hequals, hsingle', hdouble']

/-- A line without a colon is none of the others. -/
theorem classifyTrimmed_of_notMem {trimmed : List Char} (h : ':' ∉ trimmed) :
    classifyTrimmed trimmed = .other := by
  have hdrop : trimmed.dropWhile (· != ':') = [] := by
    rw [List.dropWhile_eq_nil_iff]
    intro c hc
    simpa using fun heq : c = ':' => h (heq ▸ hc)
  simp only [classifyTrimmed, hdrop]

/-- A line that says something without belonging to a recipe is read without its blanks. -/
theorem classify_of_not_idle (hrecipe : ¬ IsRecipe line) (hidle : ¬ IsIdle line) :
    classify line = classifyTrimmed (Text.trim line) := by
  have hsays : ¬ (Text.trim line = [] ∨ (Text.trim line).head? = some '#') :=
    fun hnot => hidle ⟨hrecipe, hnot⟩
  unfold classify
  split
  · exact absurd rfl hrecipe
  · split
    · next hblank => exact absurd (Or.inl hblank) hsays
    · next hcomment => exact absurd (Or.inr (by rw [hcomment]; rfl)) hsays
    · rfl

/-- A line that says nothing is read as such. -/
theorem classify_of_idle (h : IsIdle line) : classify line = .nothing := by
  unfold classify
  split
  · exact absurd rfl h.1
  · split
    · rfl
    · rfl
    · next hblank hcomment =>
      rcases h.2 with hnil | hhead
      · exact absurd hnil hblank
      · obtain ⟨rest, hrest⟩ := List.head?_eq_some_iff.mp hhead
        exact absurd hrest (hcomment rest)

/-- Every line says what the reader finds in it. -/
theorem reads_classify (line : List Char) : Reads line (classify line) := by
  by_cases hrecipe : IsRecipe line
  · obtain ⟨command, rfl⟩ := List.head?_eq_some_iff.mp hrecipe
    exact .recipe command
  by_cases hidle : IsIdle line
  · rw [classify_of_idle hidle]
    exact .nothing hidle
  rw [classify_of_not_idle hrecipe hidle]
  by_cases hcolon : ':' ∈ Text.trim line
  · obtain ⟨before, after, htrim, hfirst⟩ := List.eq_append_cons_of_mem hcolon
    have hcut : IsCut line before after := ⟨htrim, hfirst⟩
    rw [htrim, classifyTrimmed_cut hfirst]
    split
    · next hnone =>
      refine .other hrecipe hidle fun _ _ hcut' => ?_
      obtain ⟨rfl, rfl⟩ := hcut.unique hcut'
      exact hnone
    · next hrule =>
      obtain ⟨hassignment, hnames⟩ := not_or.mp hrule
      exact .rule hrecipe hidle hcut hassignment hnames
  · rw [classifyTrimmed_of_notMem hcolon]
    refine .other hrecipe hidle fun before after hcut => ?_
    exact absurd (by simp [hcut.trim_eq]) hcolon

/-- A line says just what the reader finds in it. -/
theorem reads_iff {kind : Line} : Reads line kind ↔ kind = classify line := by
  constructor
  · intro h
    exact h.unique (reads_classify line)
  · rintro rfl
    exact reads_classify line

/-- Lines say just what the reader finds in them. -/
theorem forall₂_reads_iff {lines : List (List Char)} {kinds : List Line} :
    List.Forall₂ Reads lines kinds ↔ kinds = lines.map classify := by
  constructor
  · intro h
    induction h with
    | nil => rfl
    | cons hfirst _ ih => rw [reads_iff.mp hfirst, ih, List.map_cons]
  · rintro rfl
    induction lines with
    | nil => exact .nil
    | cons line rest ih => exact .cons (reads_classify line) ih

end Conventions.Makefile
