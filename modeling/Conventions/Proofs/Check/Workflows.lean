import Conventions.Check.Workflows
import Conventions.Proofs.Except
import Conventions.Proofs.Regex.Escape

/-!
# The names of required workflow files

The expression for these names is put together as a text, from the name of a module and a
suffix. Both are escaped, so that the text can be read whatever they are, and what is read has
one part for each of their characters.
-/

namespace Conventions.Workflows

open Regex

/-- The parts of the expression for the extension of workflow files. -/
def extensionItems : List Parsed :=
  [leaf (char '.'), leaf (char 'y'), ⟨.times (char 'a') 0 (some 1), 1⟩, leaf (char 'm'),
    leaf (char 'l'), leaf (.look .textEnd)]

/-- The parts of the expression for the names of workflow files. -/
def fileItems (module suffix : String) : List Parsed :=
  leaf (.look .textStart) :: textItems module.toList ++ ⟨anyRun, 1⟩ ::
    textItems suffix.toList ++ extensionItems

/-- The expression for the names of the workflow files of a module with a suffix. -/
def fileRegex (module suffix : String) : Regex :=
  sequence ((fileItems module suffix).map (·.regex))

/-- The characters of the text from which this expression is read. -/
theorem toList_filePattern (module suffix : String) : (filePattern module suffix).toList =
    '^' :: (module.toList.flatMap escapeChar ++ '.' :: '*' ::
      (suffix.toList.flatMap escapeChar ++ ['\\', '.', 'y', 'a', '?', 'm', 'l', '$'])) := by
  have hstart : "^".toList = ['^'] := rfl
  have hrun : ".*".toList = ['.', '*'] := rfl
  have hend : "\\.ya?ml$".toList = ['\\', '.', 'y', 'a', '?', 'm', 'l', '$'] := rfl
  simp [filePattern, escape, hstart, hrun, hend]

/-- The extension of workflow files is read. -/
theorem readSequence_extension (fuel : Nat) (items : List (Option Parsed)) :
    (readSequence (fuel + 8) items).run
        (plainState ['\\', '.', 'y', 'a', '?', 'm', 'l', '$']) =
      .ok (joinItems ((extensionItems.map some).reverse ++ items), plainState []) := by
  rw [readSequence_primitive (by decide) (readPrimitive_escaped rfl),
    readSequence_primitive (by decide) (readPrimitive_char rfl),
    readSequence_primitive (by decide) (readPrimitive_char rfl),
    readSequence_repeated (Or.inl rfl) (by decide),
    readSequence_primitive (by decide) (readPrimitive_char rfl),
    readSequence_primitive (by decide) (readPrimitive_char rfl),
    readSequence_primitive (by decide) readPrimitive_end, readSequence_end]
  rfl

/-- The text is read as the parts of the expression. -/
theorem readSequence_filePattern (module suffix : String) (fuel : Nat) :
    (readSequence (module.toList.length + (suffix.toList.length + (fuel + 8) + 2) + 1) []).run
        (plainState (filePattern module suffix).toList) =
      .ok (joinItems ((fileItems module suffix).map some).reverse, plainState []) := by
  have hlazy : (suffix.toList.flatMap escapeChar ++
      ['\\', '.', 'y', 'a', '?', 'm', 'l', '$']).head? ≠ some '?' :=
    head?_escape_append_ne _ (by decide)
  rw [toList_filePattern, readSequence_primitive (by decide) readPrimitive_start,
    readSequence_escape, readSequence_primitive (by decide) readPrimitive_any,
    readSequence_repeated (Or.inr (Or.inl rfl)) hlazy, readSequence_escape,
    readSequence_extension]
  simp only [fileItems, List.cons_append, List.append_assoc, List.map_cons, List.map_append,
    List.reverse_cons, List.reverse_append, List.nil_append]
  rfl

/-- No part of the expression is more than a repetition of a character. -/
theorem height_of_mem_fileItems {module suffix : String} {part : Parsed}
    (h : part ∈ fileItems module suffix) : part.height ≤ 1 := by
  have hextension : ∀ part ∈ extensionItems, part.height ≤ 1 := by decide
  simp only [fileItems, List.cons_append, List.append_assoc, List.mem_cons, List.mem_append] at h
  rcases h with rfl | hmodule | rfl | hsuffix | hend
  · exact Nat.zero_le 1
  · rw [height_of_mem_textItems hmodule]
    exact Nat.zero_le 1
  · exact Nat.le_refl 1
  · rw [height_of_mem_textItems hsuffix]
    exact Nat.zero_le 1
  · exact hextension part hend

/-- The expression for the names of required workflow files can be read, whatever the name of
the module and the suffix are. -/
theorem read_filePattern (module suffix : String) :
    Regex.read (filePattern module suffix) = .ok (fileRegex module suffix) := by
  have hmodule := length_le_escape module.toList
  have hsuffix := length_le_escape suffix.toList
  have hlength : (filePattern module suffix).toList.length =
      (module.toList.flatMap escapeChar).length +
        (suffix.toList.flatMap escapeChar).length + 11 := by
    simp only [toList_filePattern, List.length_cons, List.length_append, List.length_nil]
    omega
  -- Every item takes one step of the reader, and no more items are read than characters.
  obtain ⟨fuel, hfuel⟩ : ∃ fuel, 4 * (filePattern module suffix).toList.length + 3 =
      module.toList.length + (suffix.toList.length + (fuel + 8) + 2) + 1 :=
    ⟨4 * (filePattern module suffix).toList.length - module.toList.length -
      suffix.toList.length - 8, by omega⟩
  refine read_of_readSequence ?_ fun part hpart => ?_
  · rw [hfuel]
    exact readSequence_filePattern module suffix fuel
  · have hpart := height_of_mem_fileItems hpart
    unfold nestLimit
    omega

/-- So no failure is reported for the expression. -/
theorem mapError_read_filePattern (module suffix : String) :
    (Regex.read (filePattern module suffix)).mapError (fun problem => .regex problem.text) =
      (.ok (fileRegex module suffix) : Except Failure Regex) :=
  mapError_eq_ok_iff.mpr (read_filePattern module suffix)

end Conventions.Workflows
