import Conventions.Proofs.Path
import Mathlib.Data.List.Induction

/-!
# The directory above a path

The directory above a path is written with the pieces of the path up to the last one that counts,
without those in front of it that do not count. So it has the components of the path without the
last one.
-/

namespace Conventions.RepoPath

/-! ### Pieces -/

/-- A piece of a text has no end in it. -/
theorem isEnd_of_mem_splitWhere {isEnd : Char → Bool} {text piece : List Char}
    (h : piece ∈ Text.splitWhere isEnd text) : ∀ c ∈ piece, isEnd c = false := by
  induction text generalizing piece with
  | nil =>
    obtain rfl : piece = [] := by simpa [Text.splitWhere] using h
    simp
  | cons c rest ih =>
    rw [Text.splitWhere] at h
    by_cases hc : isEnd c = true
    · rw [if_pos hc] at h
      rcases List.mem_cons.mp h with rfl | hrest
      · simp
      · exact ih hrest
    · rw [if_neg hc] at h
      cases hpieces : Text.splitWhere isEnd rest with
      | nil => exact absurd hpieces (splitWhere_ne_nil isEnd rest)
      | cons first more =>
        rw [hpieces] at h ih
        rcases List.mem_cons.mp h with rfl | hmore
        · exact List.forall_mem_cons.mpr ⟨by simpa using hc, ih List.mem_cons_self⟩
        · exact ih (List.mem_cons_of_mem _ hmore)

/-- The pieces of a path have no separators in them. -/
theorem noSeparator_of_mem_pieces {path : RepoPath} {piece : String} (h : piece ∈ path.pieces) :
    '/' ∉ piece.toList := by
  obtain ⟨chars, hchars, rfl⟩ := List.mem_map.mp h
  intro hmem
  have hfalse := isEnd_of_mem_splitWhere hchars '/' (by simpa using hmem)
  simp at hfalse

/-- A text without separators is one piece. -/
theorem pieces_of_noSeparator {piece : String} (h : '/' ∉ piece.toList) :
    pieces ⟨piece⟩ = [piece] := by
  unfold pieces
  rw [splitWhere_of_forall_not (fun c hc => by simpa using fun heq : c = '/' => h (heq ▸ hc))]
  simp

/-- Texts that are joined with separators are the pieces of the path. -/
theorem pieces_intercalate {parts : List String} (hne : parts ≠ [])
    (h : ∀ part ∈ parts, '/' ∉ part.toList) : pieces ⟨"/".intercalate parts⟩ = parts := by
  induction parts with
  | nil => exact absurd rfl hne
  | cons part rest ih =>
    obtain ⟨hpart, hrest⟩ := List.forall_mem_cons.mp h
    by_cases hempty : rest = []
    · subst hempty
      rw [String.intercalate_singleton, pieces_of_noSeparator hpart]
    · rw [String.intercalate_cons_of_ne_nil hempty, pieces_append_separator,
        pieces_of_noSeparator hpart, ih hempty hrest, List.singleton_append]

/-- A path starts at the root if its first piece is empty and not its only one. -/
theorem isAbsolute_iff {path : RepoPath} {first : String} {rest : List String}
    (h : path.pieces = first :: rest) : path.isAbsolute = true ↔ first = "" ∧ rest ≠ [] := by
  obtain ⟨text⟩ := path
  unfold pieces at h
  unfold isAbsolute
  cases hchars : text.toList with
  | nil =>
    simp only [hchars, Text.splitWhere, List.map_cons, List.map_nil, List.cons.injEq] at h
    simp [← h.2]
  | cons c more =>
    simp only [hchars] at h
    rw [Text.splitWhere] at h
    by_cases hc : (c == '/') = true
    · rw [if_pos hc, List.map_cons, List.cons.injEq] at h
      obtain ⟨rfl, rfl⟩ := h
      have hslash : c = '/' := by simpa using hc
      have hmore := splitWhere_ne_nil (· == '/') more
      simp [hslash, hmore]
    · rw [if_neg hc] at h
      have hfirst : first ≠ "" := by
        rintro rfl
        split at h <;> simp at h
      simpa [hfirst] using hc

/-- The component that the first piece stands for; an empty one stands for the root if the path is
absolute. -/
def firstComponent? (isAbsolute : Bool) (first : String) : Option Component :=
  if isAbsolute then some .root
  else if first = "." then some .current
  else innerComponent? first

/-- The components are those that the pieces stand for. -/
theorem components_of_pieces_cons {path : RepoPath} {first : String} {rest : List String}
    (h : path.pieces = first :: rest) : path.components =
      (firstComponent? path.isAbsolute first).toList ++ rest.filterMap innerComponent? := by
  unfold components firstComponent?
  rw [h]
  by_cases habsolute : path.isAbsolute = true
  · obtain ⟨rfl, -⟩ := (isAbsolute_iff h).mp habsolute
    simp [habsolute, innerComponent?]
  · by_cases hcurrent : first = "."
    · simp [habsolute, hcurrent, innerComponent?]
    · cases hfirst : innerComponent? first <;> simp [habsolute, hcurrent, hfirst]

/-- Texts that are joined with separators stand for components like pieces. The empty text in front
of others stands for the root. -/
theorem components_intercalate {first : String} {more : List String}
    (h : ∀ part ∈ first :: more, '/' ∉ part.toList) (hne : ¬(first = "" ∧ more = [])) :
    components ⟨"/".intercalate (first :: more)⟩ =
      (firstComponent? (decide (first = "")) first).toList ++ more.filterMap innerComponent? := by
  have hpieces := pieces_intercalate (List.cons_ne_nil first more) h
  have habsolute : isAbsolute ⟨"/".intercalate (first :: more)⟩ = decide (first = "") := by
    rw [Bool.eq_iff_iff, isAbsolute_iff hpieces, decide_eq_true_eq]
    constructor
    · rintro ⟨hfirst, -⟩
      exact hfirst
    · intro hfirst
      exact ⟨hfirst, fun hmore => hne ⟨hfirst, hmore⟩⟩
  rw [components_of_pieces_cons hpieces, habsolute]

/-! ### The directory above -/

/-- The last of several pieces is dropped if it does not count. -/
theorem dropSilent_cons {piece : String} {rest : List String} (h : rest ≠ []) :
    dropSilent (piece :: rest) =
      if piece = "" ∨ piece = "." then dropSilent rest else piece :: rest := by
  cases rest with
  | nil => exact absurd rfl h
  | cons next more => rfl

/-- Dropping pieces that do not count, from the last one on, leaves the first piece and those up to
the last one that counts. -/
theorem exists_dropSilent_reverse (first : String) (rest : List String) :
    ∃ kept silent, rest = kept ++ silent ∧ silent.filterMap innerComponent? = [] ∧
      dropSilent (first :: rest).reverse = (first :: kept).reverse ∧
      ∀ last, kept.getLast? = some last → ∃ component, innerComponent? last = some component := by
  induction rest using List.reverseRecOn with
  | nil => exact ⟨[], [], rfl, rfl, rfl, by simp⟩
  | append_singleton rest last ih =>
    have hreverse : (first :: (rest ++ [last])).reverse = last :: (first :: rest).reverse := by simp
    rw [hreverse, dropSilent_cons (List.reverse_ne_nil_iff.mpr (List.cons_ne_nil first rest))]
    by_cases hlast : last = "" ∨ last = "."
    · obtain ⟨kept, silent, hrest, hsilent, hdrop, hcounts⟩ := ih
      refine ⟨kept, silent ++ [last], ?_, ?_, ?_, hcounts⟩
      · rw [hrest, List.append_assoc]
      · simp [hsilent, innerComponent?, hlast]
      · rw [if_pos hlast, hdrop]
    · refine ⟨rest ++ [last], [], by simp, rfl, ?_, ?_⟩
      · rw [if_neg hlast, hreverse]
      · intro other hother
        obtain rfl : last = other := by simpa using hother
        unfold innerComponent?
        rw [if_neg hlast]
        split <;> simp

/-- The directory above a path has its components without the last one. -/
theorem components_of_parent? {path folder : RepoPath} (h : path.parent? = some folder) :
    folder.components = path.components.dropLast := by
  obtain ⟨first, rest, hpieces⟩ := List.exists_cons_of_ne_nil path.pieces_ne_nil
  have hnames : ∀ piece ∈ first :: rest, '/' ∉ piece.toList := fun piece hpiece =>
    noSeparator_of_mem_pieces (hpieces ▸ hpiece)
  have hcomponents := components_of_pieces_cons hpieces
  obtain ⟨kept, silent, rfl, hsilent, hdrop, hcounts⟩ := exists_dropSilent_reverse first rest
  rw [List.filterMap_append, hsilent, List.append_nil] at hcomponents
  unfold parent? at h
  split at h
  · cases h
  · cases h
  rw [hpieces, hdrop] at h
  cases hlast : kept.getLast? with
  | none =>
    -- Only the first piece counts, so there is nothing above it.
    obtain rfl := List.getLast?_eq_none_iff.mp hlast
    cases h
    have hempty : components ⟨""⟩ = [] := rfl
    rw [hcomponents, hempty]
    cases firstComponent? path.isAbsolute first <;> rfl
  | some last =>
    obtain ⟨component, hcomponent⟩ := hcounts last hlast
    obtain ⟨above, rfl⟩ := List.getLast?_eq_some_iff.mp hlast
    have hdropLast : path.components.dropLast =
        (firstComponent? path.isAbsolute first).toList ++ above.filterMap innerComponent? := by
      rw [hcomponents, List.filterMap_append, ← List.append_assoc]
      simp [hcomponent]
    obtain ⟨more, hidden, rfl, hhidden, hdropAbove, -⟩ := exists_dropSilent_reverse first above
    rw [List.filterMap_append, hhidden, List.append_nil] at hdropLast
    have hreverse : (first :: (more ++ hidden ++ [last])).reverse.drop 1 =
        (first :: (more ++ hidden)).reverse := by simp
    rw [hreverse, hdropAbove] at h
    have habsolute : path.isAbsolute = decide (first = "") := by
      rw [Bool.eq_iff_iff, isAbsolute_iff hpieces]
      simp
    rw [hdropLast, habsolute]
    by_cases hroot : first = "" ∧ more = []
    · -- Nothing but the root is left.
      obtain ⟨rfl, rfl⟩ := hroot
      simp only [habsolute, decide_true] at h
      cases h
      rfl
    · have hfolder : folder = ⟨"/".intercalate (first :: more)⟩ := by
        split at h
        · next heq => simp at heq
        · next heq =>
          have hsingle : first :: more = [""] := List.reverse_inj.mp heq
          exact absurd (List.cons.inj hsingle) hroot
        · cases h
          rw [List.reverse_reverse]
      rw [hfolder]
      refine components_intercalate (fun part hpart => hnames part ?_) hroot
      rcases List.mem_cons.mp hpart with rfl | hpart
      · simp
      · simp [hpart]

end Conventions.RepoPath
