import Conventions.Text.Blank
import Mathlib.Data.List.Infix

/-!
# Erasing a text from another

Erasing goes through a text from the left and passes over each occurrence of a pattern that it
comes to. What is left is shorter by the length of the pattern for each occurrence that was passed
over, and there is at least one if the pattern occurs at all.
-/

namespace Conventions.Text

variable {pattern : List Char}

/-- What remains to be passed over of an occurrence is passed over. -/
theorem eraseFrom_skip (pattern skipped rest : List Char) :
    eraseFrom pattern skipped.length (skipped ++ rest) = eraseFrom pattern 0 rest := by
  induction skipped with
  | nil => rfl
  | cons c skipped ih => simpa [eraseFrom] using ih

/-- Nothing is left that was not there. -/
theorem eraseFrom_subset (pattern : List Char) (skipped : Nat) (text : List Char) :
    eraseFrom pattern skipped text ⊆ text := by
  induction text generalizing skipped with
  | nil => exact List.Subset.refl _
  | cons c rest ih =>
    unfold eraseFrom
    split
    · exact List.subset_cons_of_subset c (ih _)
    · split
      · exact List.subset_cons_of_subset c (ih _)
      · exact List.cons_subset_cons c (ih 0)

/-- An occurrence at the start is left out. -/
theorem eraseFrom_append (h : pattern ≠ []) (rest : List Char) :
    eraseFrom pattern 0 (pattern ++ rest) = eraseFrom pattern 0 rest := by
  obtain ⟨c, more, rfl⟩ := List.exists_cons_of_ne_nil h
  have hstarts : (c :: more).isPrefixOf (c :: (more ++ rest)) = true :=
    List.isPrefixOf_iff_prefix.mpr (List.prefix_append (c :: more) rest)
  rw [List.cons_append, eraseFrom]
  simp only [hstarts, List.isEmpty_cons, Bool.not_false, Bool.and_true, if_true,
    List.length_cons, Nat.add_sub_cancel]
  exact eraseFrom_skip (c :: more) more rest

/-- A character with which no occurrence starts is kept. -/
theorem eraseFrom_cons {c : Char} {rest : List Char} (h : ¬ pattern <+: c :: rest) :
    eraseFrom pattern 0 (c :: rest) = c :: eraseFrom pattern 0 rest := by
  have hstarts : pattern.isPrefixOf (c :: rest) = false := by
    rwa [← Bool.not_eq_true, List.isPrefixOf_iff_prefix]
  simp [eraseFrom, hstarts]

/-- A text in which the pattern does not occur is left as it is. -/
theorem eraseFrom_of_not_infix {text : List Char} (h : ¬ pattern <:+: text) :
    eraseFrom pattern 0 text = text := by
  induction text with
  | nil => rfl
  | cons c rest ih =>
    rw [List.infix_cons_iff, not_or] at h
    rw [eraseFrom_cons h.1, ih h.2]

/-- A text is longer than what is left of it by some occurrences of the pattern, and by at least one
if the pattern occurs at all. -/
theorem exists_length_eraseFrom (h : pattern ≠ []) (text : List Char) :
    ∃ count, text.length = (eraseFrom pattern 0 text).length + count * pattern.length ∧
      (pattern <:+: text → 0 < count) := by
  -- An occurrence is passed over as a whole, so the induction is on the length.
  induction hlength : text.length using Nat.strong_induction_on generalizing text with
  | _ length ih =>
    by_cases hstarts : pattern <+: text
    · obtain ⟨rest, rfl⟩ := hstarts
      have hshorter : rest.length < length := by
        have hpattern := List.length_pos_iff.mpr h
        rw [← hlength, List.length_append]
        omega
      obtain ⟨count, hcount, -⟩ := ih _ hshorter rest rfl
      refine ⟨count + 1, ?_, fun _ => Nat.succ_pos count⟩
      rw [eraseFrom_append h, ← hlength, List.length_append, hcount, Nat.succ_mul]
      omega
    · cases text with
      | nil =>
        refine ⟨0, by simp [← hlength, eraseFrom], fun hinfix => ?_⟩
        exact absurd (List.eq_nil_of_infix_nil hinfix) h
      | cons c rest =>
        obtain ⟨count, hcount, hpos⟩ := ih rest.length (by simp [← hlength]) rest rfl
        refine ⟨count, ?_, fun hinfix => hpos ?_⟩
        · rw [eraseFrom_cons hstarts, ← hlength, List.length_cons, List.length_cons, hcount]
          omega
        · exact (List.infix_cons_iff.mp hinfix).resolve_left hstarts

/-- Exactly the texts in which the pattern does not occur are left as they are. -/
theorem eraseFrom_eq_self_iff (h : pattern ≠ []) {text : List Char} :
    eraseFrom pattern 0 text = text ↔ ¬ pattern <:+: text := by
  refine ⟨fun hself hinfix => ?_, eraseFrom_of_not_infix⟩
  obtain ⟨count, hcount, hpos⟩ := exists_length_eraseFrom h text
  have hoccurs : 0 < count * pattern.length :=
    Nat.mul_pos (hpos hinfix) (List.length_pos_iff.mpr h)
  rw [hself] at hcount
  omega

/-- Exactly the texts in which a text does not occur are the same without it. -/
theorem erase_eq_self_iff {pattern text : String} (h : pattern ≠ "") :
    erase pattern text = text ↔ ¬ pattern.toList <:+: text.toList := by
  have hchars : pattern.toList ≠ [] := by simpa using h
  rw [← eraseFrom_eq_self_iff hchars, erase, ← String.toList_inj, String.toList_ofList]

/-- A text is the same without an occurrence at its start. -/
theorem erase_append {pattern : String} (h : pattern ≠ "") (rest : String) :
    erase pattern (pattern ++ rest) = erase pattern rest := by
  have hchars : pattern.toList ≠ [] := by simpa using h
  rw [erase, String.toList_append, eraseFrom_append hchars, erase]

end Conventions.Text
