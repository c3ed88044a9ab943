import Conventions.Content.Similarity
import Mathlib.Order.Bounds.Basic
import Mathlib.Tactic.Common

/-!
# The edit distance

A text is turned into another one by edits of single characters. The table of distances is filled
row by row, of which only the last one is kept. Each of its entries is the least number of edits
between two starts of the texts, so the last entry of the last row is the least number of edits
between the texts.
-/

namespace Conventions.Similarity

/-! ### Edits -/

/-- One edit: a character is inserted, deleted or put in the place of another one. -/
inductive Edit : List Char → List Char → Prop
  | insert (start rest : List Char) (c : Char) : Edit (start ++ rest) (start ++ c :: rest)
  | delete (start rest : List Char) (c : Char) : Edit (start ++ c :: rest) (start ++ rest)
  | substitute (start rest : List Char) (c d : Char) :
    Edit (start ++ c :: rest) (start ++ d :: rest)

/-- A number of edits, one after the other, turns one text into another. -/
inductive EditsTo : Nat → List Char → List Char → Prop
  | none (text : List Char) : EditsTo 0 text text
  | more {count : Nat} {a b c : List Char} :
    Edit a b → EditsTo count b c → EditsTo (count + 1) a c

/-- An edit can be taken back. -/
theorem Edit.symm {a b : List Char} (h : Edit a b) : Edit b a := by
  cases h with
  | insert start rest c => exact .delete start rest c
  | delete start rest c => exact .insert start rest c
  | substitute start rest c d => exact .substitute start rest d c

/-- An edit can be made behind a further character. -/
theorem Edit.cons {a b : List Char} (h : Edit a b) (c : Char) : Edit (c :: a) (c :: b) := by
  cases h with
  | insert start rest d => exact .insert (c :: start) rest d
  | delete start rest d => exact .delete (c :: start) rest d
  | substitute start rest d e => exact .substitute (c :: start) rest d e

/-- An edit can be made from the other end. -/
theorem Edit.reverse {a b : List Char} (h : Edit a b) : Edit a.reverse b.reverse := by
  cases h with
  | insert start rest c => simpa using Edit.insert rest.reverse start.reverse c
  | delete start rest c => simpa using Edit.delete rest.reverse start.reverse c
  | substitute start rest c d => simpa using Edit.substitute rest.reverse start.reverse c d

/-- An edit changes the length of a text by one at most. -/
theorem Edit.length_le {a b : List Char} (h : Edit a b) : a.length ≤ b.length + 1 := by
  cases h <;> simp only [List.length_append, List.length_cons] <;> omega

namespace EditsTo

variable {count others : Nat} {a b c : List Char}

/-- Edits can go on with others. -/
theorem trans (h : EditsTo count a b) (h' : EditsTo others b c) :
    EditsTo (count + others) a c := by
  induction h with
  | none text => simpa using h'
  | more first _ ih =>
    have hall := EditsTo.more first (ih h')
    rwa [Nat.add_right_comm] at hall

/-- Edits can be taken back, the last one first. -/
theorem symm (h : EditsTo count a b) : EditsTo count b a := by
  induction h with
  | none text => exact .none text
  | more first _ ih => exact ih.trans (.more first.symm (.none _))

/-- Edits can be made behind a further character. -/
theorem cons (h : EditsTo count a b) (d : Char) : EditsTo count (d :: a) (d :: b) := by
  induction h with
  | none text => exact .none _
  | more first _ ih => exact .more (first.cons d) ih

/-- Edits can be made from the other end. -/
theorem reverse (h : EditsTo count a b) : EditsTo count a.reverse b.reverse := by
  induction h with
  | none text => exact .none _
  | more first _ ih => exact .more first.reverse ih

/-- A text gets no shorter than by one character for each edit. -/
theorem length_le (h : EditsTo count a b) : a.length ≤ b.length + count := by
  induction h with
  | none text => exact Nat.le_refl _
  | more first _ ih =>
    have hfirst := first.length_le
    omega

/-- Of two ways to turn one text into another, one is the shorter. -/
theorem min (h : EditsTo count a b) (h' : EditsTo others a b) :
    EditsTo (min count others) a b := by
  rcases Nat.le_total count others with hle | hle
  · rwa [Nat.min_eq_left hle]
  · rwa [Nat.min_eq_right hle]

/-- Without edits a text stays as it is. -/
theorem eq_of_zero (h : EditsTo 0 a b) : a = b := by
  cases h
  rfl

end EditsTo

/-! ### The least number of edits -/

/-- The least number of edits, by cases on the first characters: the first one of the one text is
kept or put in the place of that of the other one, or it is deleted, or that one is inserted. -/
def leastEdits : List Char → List Char → Nat
  | [], b => b.length
  | _ :: a, [] => a.length + 1
  | c :: a, d :: b =>
    min (min (leastEdits a b + if c = d then 0 else 1) (leastEdits a (d :: b) + 1))
      (leastEdits (c :: a) b + 1)
  termination_by a b => a.length + b.length

/-- Against nothing, all characters are deleted. -/
theorem leastEdits_nil_right (a : List Char) : leastEdits a [] = a.length := by
  cases a <;> simp [leastEdits]

/-- One more character costs one more deletion at most. -/
theorem leastEdits_cons_left_le (c : Char) (a b : List Char) :
    leastEdits (c :: a) b ≤ leastEdits a b + 1 := by
  cases b with
  | nil => simp [leastEdits_nil_right]
  | cons d b =>
    rw [leastEdits]
    omega

/-- One more character of the other text costs one more insertion at most. -/
theorem leastEdits_cons_right_le (a b : List Char) (d : Char) :
    leastEdits a (d :: b) ≤ leastEdits a b + 1 := by
  cases a with
  | nil => simp [leastEdits]
  | cons c a =>
    rw [leastEdits]
    omega

/-- Characters that are put in each other's place cost one edit at most. -/
theorem leastEdits_cons_cons_le (c d : Char) (a b : List Char) :
    leastEdits (c :: a) (d :: b) ≤ leastEdits a b + 1 := by
  rw [leastEdits]
  split <;> omega

/-- One character less saves one edit at most. -/
theorem leastEdits_le_cons_left (c : Char) (a b : List Char) :
    leastEdits a b ≤ leastEdits (c :: a) b + 1 := by
  induction b with
  | nil =>
    simp only [leastEdits_nil_right, List.length_cons]
    omega
  | cons d b ih =>
    have hdeleted := leastEdits_cons_right_le a b d
    rw [leastEdits]
    omega

/-- Another first character saves one edit at most. -/
theorem leastEdits_le_substituted (c d : Char) (a b : List Char) :
    leastEdits (c :: a) b ≤ leastEdits (d :: a) b + 1 := by
  induction b with
  | nil => simp [leastEdits_nil_right]
  | cons e b ih =>
    have hkept := leastEdits_cons_cons_le c e a b
    have hdeleted := leastEdits_cons_left_le c a (e :: b)
    have hinserted := leastEdits_cons_right_le (c :: a) b e
    rw [leastEdits.eq_def (d :: a)]
    dsimp only
    omega

/-- What is saved behind a first character is all that is saved. -/
theorem leastEdits_cons_le_of_forall {a a' : List Char}
    (h : ∀ b, leastEdits a b ≤ leastEdits a' b + 1) (c : Char) (b : List Char) :
    leastEdits (c :: a) b ≤ leastEdits (c :: a') b + 1 := by
  induction b with
  | nil =>
    have hlength := h []
    simp only [leastEdits_nil_right, List.length_cons] at hlength ⊢
    omega
  | cons d b ih =>
    have hkept := h b
    have hdeleted := h (d :: b)
    rw [leastEdits, leastEdits]
    omega

/-- An edit of the first text saves one edit at most. -/
theorem leastEdits_le_of_edit {a a' : List Char} (h : Edit a a') (b : List Char) :
    leastEdits a b ≤ leastEdits a' b + 1 := by
  cases h with
  | insert start rest c =>
    induction start generalizing b with
    | nil => exact leastEdits_le_cons_left c rest b
    | cons d start ih => exact leastEdits_cons_le_of_forall ih d b
  | delete start rest c =>
    induction start generalizing b with
    | nil => exact leastEdits_cons_left_le c rest b
    | cons d start ih => exact leastEdits_cons_le_of_forall ih d b
  | substitute start rest c e =>
    induction start generalizing b with
    | nil => exact leastEdits_le_substituted c e rest b
    | cons d start ih => exact leastEdits_cons_le_of_forall ih d b

/-- A text needs no edits to stay as it is. -/
theorem leastEdits_self (a : List Char) : leastEdits a a = 0 := by
  induction a with
  | nil => simp [leastEdits]
  | cons c a ih => simp [leastEdits, ih]

/-- No fewer edits turn one text into another. -/
theorem leastEdits_le {count : Nat} {a b : List Char} (h : EditsTo count a b) :
    leastEdits a b ≤ count := by
  induction h with
  | none text => rw [leastEdits_self]
  | more first _ ih =>
    calc leastEdits _ _ ≤ leastEdits _ _ + 1 := leastEdits_le_of_edit first _
      _ ≤ _ + 1 := Nat.succ_le_succ ih

/-- The characters of a text are inserted one by one. -/
theorem editsTo_of_nil (b : List Char) : EditsTo b.length [] b := by
  induction b with
  | nil => exact .none []
  | cons d b ih =>
    have hinsert : Edit b (d :: b) := .insert [] b d
    exact ih.trans (.more hinsert (.none _))

/-- There are as many edits that turn one text into another. -/
theorem editsTo_leastEdits (a b : List Char) : EditsTo (leastEdits a b) a b := by
  fun_induction leastEdits a b with
  | case1 b => exact editsTo_of_nil b
  | case2 c a => exact (editsTo_of_nil (c :: a)).symm
  | case3 c a d b ihkept ihdeleted ihinserted =>
    have hkept : EditsTo (leastEdits a b + if c = d then 0 else 1) (c :: a) (d :: b) := by
      split
      · next heq =>
        subst heq
        exact ihkept.cons c
      · have hsubstitute : Edit (c :: a) (d :: a) := .substitute [] a c d
        exact .more hsubstitute (ihkept.cons d)
    have hdeleted : EditsTo (leastEdits a (d :: b) + 1) (c :: a) (d :: b) :=
      .more (.delete [] a c) ihdeleted
    have hinserted : EditsTo (leastEdits (c :: a) b + 1) (c :: a) (d :: b) :=
      ihinserted.trans (.more (.insert [] b d) (.none _))
    exact (hkept.min hdeleted).min hinserted

/-- No more edits are needed than the longer text has characters. -/
theorem leastEdits_le_max (a b : List Char) : leastEdits a b ≤ max a.length b.length := by
  fun_induction leastEdits a b with
  | case1 b => simp
  | case2 c a => simp
  | case3 c a d b ihkept _ _ =>
    simp only [List.length_cons]
    split <;> omega

/-! ### Rows of the table -/

/-- A row of the table from an entry on. The characters of both texts in front of the entry are
given last one first. -/
def rowFrom (above before : List Char) : List Char → List Nat
  | [] => [leastEdits above before]
  | d :: other => leastEdits above before :: rowFrom above (d :: before) other

/-- The first row counts the characters of the other text. -/
theorem rowFrom_nil (before other : List Char) :
    rowFrom [] before other = List.range' before.length (other.length + 1) := by
  induction other generalizing before with
  | nil => simp [rowFrom, leastEdits]
  | cons d other ih => rw [rowFrom, ih, leastEdits, List.length_cons, List.length_cons,
      ← List.range'_succ]

/-- The rest of a row is computed from the row above it. -/
theorem rowAfter_rowFrom (c : Char) (above before other : List Char) :
    rowAfter c (leastEdits (c :: above) before) (leastEdits above before) other
      (rowFrom above before other).tail = (rowFrom (c :: above) before other).tail := by
  induction other generalizing before with
  | nil => rfl
  | cons d other ih =>
    -- The next entry of the row above is the first one of what follows.
    have habove : (rowFrom above before (d :: other)).tail =
        leastEdits above (d :: before) :: (rowFrom above (d :: before) other).tail := by
      cases other <;> rfl
    have hrow : (rowFrom (c :: above) before (d :: other)).tail =
        leastEdits (c :: above) (d :: before) ::
          (rowFrom (c :: above) (d :: before) other).tail := by
      cases other <;> rfl
    have hentry : min (min (leastEdits above before + if c = d then 0 else 1)
        (leastEdits above (d :: before) + 1)) (leastEdits (c :: above) before + 1) =
          leastEdits (c :: above) (d :: before) := (leastEdits.eq_3 c above d before).symm
    rw [habove, hrow, rowAfter]
    simp only [hentry, ih]

/-- The next row is that for one more character of the first text. -/
theorem nextRow_rowFrom (above other : List Char) (c : Char) :
    nextRow other (rowFrom above [] other) c = rowFrom (c :: above) [] other := by
  have hfirst : leastEdits (c :: above) [] = leastEdits above [] + 1 := by
    simp only [leastEdits_nil_right, List.length_cons]
  have hcons (above : List Char) : rowFrom above [] other =
      leastEdits above [] :: (rowFrom above [] other).tail := by
    cases other <;> rfl
  rw [hcons above, hcons (c :: above), nextRow, ← hfirst]
  exact congrArg _ (rowAfter_rowFrom c above [] other)

/-- The last of the rows is that for all characters of the first text. -/
theorem foldl_nextRow (a above other : List Char) :
    a.foldl (nextRow other) (rowFrom above [] other) = rowFrom (a.reverse ++ above) [] other := by
  induction a generalizing above with
  | nil => rfl
  | cons c a ih =>
    rw [List.foldl_cons, nextRow_rowFrom, ih]
    simp

/-- The last entry of a row is that for all characters of the other text. -/
theorem getLastD_rowFrom (above before other : List Char) :
    (rowFrom above before other).getLastD 0 = leastEdits above (other.reverse ++ before) := by
  induction other generalizing before with
  | nil => rfl
  | cons d other ih =>
    have hne : rowFrom above (d :: before) other ≠ [] := by
      cases other <;> simp [rowFrom]
    rw [rowFrom, List.getLastD_cons]
    have hlast := ih (d :: before)
    simp only [List.getLastD_eq_getLast?, List.getLast?_eq_some_getLast hne] at hlast ⊢
    simpa using hlast

/-- The distance is the least number of edits, counted from the ends of the texts. -/
theorem distance_eq_leastEdits (a b : List Char) :
    distance a b = leastEdits a.reverse b.reverse := by
  have hfirst : List.range (b.length + 1) = rowFrom [] [] b := by
    rw [rowFrom_nil, List.range_eq_range', List.length_nil]
  rw [distance, hfirst, foldl_nextRow, getLastD_rowFrom, List.append_nil, List.append_nil]

/-- The distance is the least number of edits that turn one text into the other. -/
theorem isLeast_distance (a b : List Char) :
    IsLeast {count | EditsTo count a b} (distance a b) := by
  rw [distance_eq_leastEdits]
  constructor
  · have hedits := (editsTo_leastEdits a.reverse b.reverse).reverse
    rwa [List.reverse_reverse, List.reverse_reverse] at hedits
  · intro count hcount
    exact leastEdits_le hcount.reverse

/-- The distance of two texts is the least number of edits of single characters that turn the one
into the other. So it is the same both ways, it is zero for equal texts only, no way over a third
text is shorter, and it lies between the difference of the lengths and the greater one. -/
theorem isLeast_levenshtein (a b c : String) :
    IsLeast {count | EditsTo count a.toList b.toList} (levenshtein a b) ∧
      levenshtein a b = levenshtein b a ∧
      (levenshtein a b = 0 ↔ a = b) ∧
      levenshtein a c ≤ levenshtein a b + levenshtein b c ∧
      max a.length b.length - min a.length b.length ≤ levenshtein a b ∧
      levenshtein a b ≤ max a.length b.length := by
  have hab := isLeast_distance a.toList b.toList
  have hba := isLeast_distance b.toList a.toList
  have hbc := isLeast_distance b.toList c.toList
  have hac := isLeast_distance a.toList c.toList
  refine ⟨hab, ?_, ?_, ?_, ?_, ?_⟩
  · exact Nat.le_antisymm (hab.2 hba.1.symm) (hba.2 hab.1.symm)
  · constructor
    · intro hzero
      have hedits : EditsTo (levenshtein a b) a.toList b.toList := hab.1
      rw [hzero] at hedits
      exact String.toList_inj.mp hedits.eq_of_zero
    · rintro rfl
      exact Nat.le_zero.mp (hab.2 (EditsTo.none a.toList))
  · exact hac.2 (hab.1.trans hbc.1)
  · have hlonger := hab.1.length_le
    have hshorter := hab.1.symm.length_le
    simp only [String.length_toList] at hlonger hshorter
    simp only [levenshtein]
    omega
  · have hmax := leastEdits_le_max a.toList.reverse b.toList.reverse
    rw [← distance_eq_leastEdits] at hmax
    simp only [List.length_reverse, String.length_toList] at hmax
    exact hmax

end Conventions.Similarity
