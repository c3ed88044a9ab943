import Conventions.Proofs.Content.Grammar

/-!
# Queries are read back as they are written

The text of a query has every key in quotes, with a backslash before each quote and backslash
of the key, and every index in decimal digits. So it is in the grammar, with the steps it was
written from. The grammar only has indexes below the bound, so whatever is accepted can be
written and read again.
-/

namespace Conventions

/-- A step whose index, if it is one, is below the bound. -/
def Step.Fits : Step → Prop
  | .key _ => True
  | .index position => position < Query.indexBound

namespace Query

open Grammar

/-- All indexes of a query are below the bound. -/
def Fits (query : Query) : Prop := ∀ step ∈ query.steps, step.Fits

variable {text written : List Char} {steps : List Step}

/-! ### What is written is in the grammar -/

/-- The characters of a key stand for themselves once they are escaped. -/
theorem quoted_escaped (name : List Char) : Quoted (name.flatMap escapeChar) name := by
  induction name with
  | nil => exact .nothing
  | cons c name ih =>
    rw [List.flatMap_cons, escapeChar]
    split
    · exact .escaped c ih
    · next hspecial =>
      obtain ⟨hbackslash, hquote⟩ := not_or.mp hspecial
      exact .plain hquote hbackslash ih

/-- A key in quotes is a key. -/
theorem key_quotedKeyChars (name : String) : Key (quotedKeyChars name) name := by
  have hkey := Key.quoted (quoted_escaped name.toList)
  rwa [String.ofList_toList] at hkey

/-- A number below the bound in brackets is an index. -/
theorem index_toDigits {position : Nat} (h : position < indexBound) :
    Index ('[' :: (Nat.toDigits 10 position ++ [']'])) position := by
  have hvalue : Nat.ofDigitChars 10 (Nat.toDigits 10 position) 0 = position :=
    Nat.ofDigitChars_toDigits (by decide) (by decide)
  have hdigits : ∀ d ∈ Nat.toDigits 10 position, d.isDigit = true := fun d hd =>
    Nat.isDigit_of_mem_toDigits (by decide) (by decide) hd
  have hindex := Index.digits Nat.toDigits_ne_nil hdigits (by rwa [hvalue])
  rwa [hvalue] at hindex

/-- The text of further steps can stand behind a key or an index. -/
theorem behind_stepsChars (h : ∀ step ∈ steps, step.Fits) :
    Behind (stepsChars false steps) steps := by
  induction steps with
  | nil => exact .nil
  | cons step rest ih =>
    obtain ⟨hstep, hrest⟩ := List.forall_mem_cons.mp h
    cases step with
    | key name => exact .append .nil ((ih hrest).further (key_quotedKeyChars name))
    | index position =>
      have hbehind := (ih hrest).index (index_toDigits hstep)
      rwa [List.cons_append, List.append_assoc] at hbehind

/-- The text of at least one step is in the grammar. -/
theorem text_stepsChars (hne : steps ≠ []) (h : ∀ step ∈ steps, step.Fits) :
    Grammar.Text (stepsChars true steps) steps := by
  cases steps with
  | nil => exact absurd rfl hne
  | cons step rest =>
    obtain ⟨hstep, hrest⟩ := List.forall_mem_cons.mp h
    have hbehind := behind_stepsChars hrest
    cases step with
    | key name => exact hbehind.text_of_key (key_quotedKeyChars name)
    | index position =>
      have htext := hbehind.text_of_index (index_toDigits hstep)
      rwa [List.cons_append, List.append_assoc] at htext

/-- The text of at least one step starts with a quote or a bracket, so it is not blank. -/
theorem allBlank_stepsChars (hne : steps ≠ []) : Text.allBlank (stepsChars true steps) = false := by
  cases steps with
  | nil => exact absurd rfl hne
  | cons step rest =>
    cases step with
    | key name => rfl
    | index position => rfl

/-- A query whose indexes are below the bound is read back as it was written. -/
theorem parse_display_of_fits {query : Query} (h : query.Fits) :
    parse query.display = .ok query := by
  unfold parse display
  rw [String.toList_ofList]
  by_cases hempty : query.steps = []
  · rw [hempty]
    cases query
    cases hempty
    rfl
  · rw [allBlank_stepsChars hempty, if_neg (by decide), readFrom_start (text_stepsChars hempty h)]
    rfl

/-! ### What is in the grammar fits -/

/-- An index is below the bound. -/
theorem Grammar.Index.lt {position : Nat} (h : Index written position) : position < indexBound := by
  cases h with
  | digits _ _ hbound => exact hbound

/-- Indexes are below the bound. -/
theorem Grammar.Indexes.fits (h : Indexes written steps) : ∀ step ∈ steps, step.Fits := by
  induction h with
  | nil => simp
  | cons hindex _ ih => exact List.forall_mem_cons.mpr ⟨hindex.lt, ih⟩

/-- The indexes of a segment are below the bound. -/
theorem Grammar.Segment.fits (h : Segment written steps) : ∀ step ∈ steps, step.Fits := by
  cases h with
  | key _ hindexes => exact List.forall_mem_cons.mpr ⟨trivial, hindexes.fits⟩

/-- The indexes of further segments are below the bound. -/
theorem Grammar.Further.fits (h : Further written steps) : ∀ step ∈ steps, step.Fits := by
  induction h with
  | nil => simp
  | cons hsegment _ ih => exact List.forall_mem_append.mpr ⟨hsegment.fits, ih⟩

/-- The indexes of a text are below the bound. -/
theorem Grammar.Text.fits (h : Grammar.Text text steps) : ∀ step ∈ steps, step.Fits := by
  cases h with
  | segments hfirst hfurther =>
    refine List.forall_mem_append.mpr ⟨?_, hfurther.fits⟩
    cases hfirst with
    | segment hsegment => exact hsegment.fits
    | indexes hindexes _ => exact hindexes.fits

/-- All indexes of a query that was read are below the bound. -/
theorem fits_of_parse {text : String} {query : Query} (h : parse text = .ok query) :
    query.Fits := by
  unfold parse at h
  split at h
  · cases h
    exact fun step hstep => absurd hstep List.not_mem_nil
  · obtain ⟨steps, hsteps, rfl⟩ := map_eq_ok_iff.mp h
    exact (readFrom_start_eq_ok_iff.mp hsteps).fits

/-- A query is read back as it was written, whatever its keys are and wherever its indexes
stand, as long as these are below the bound; every query that was read is of this kind. -/
theorem parse_display :
    (∀ query : Query, query.Fits → parse query.display = .ok query) ∧
      ∀ (text : String) (query : Query), parse text = .ok query →
        parse query.display = .ok query :=
  ⟨fun _ hfits => parse_display_of_fits hfits,
    fun _ _ hparse => parse_display_of_fits (fits_of_parse hparse)⟩

/-- A query with an index first and last, an empty key, and a key of signs that mean something
in the text of a query. -/
def awkward : Query := ⟨[.index 0, .index 18446744073709551615, .key "", .key " .[\"]\\", .index 7]⟩

/-- The awkward query is read back, and so is a query that was written without quotes. -/
theorem parse_display_awkward : awkward.Fits ∧ parse awkward.display = .ok awkward ∧
    awkward.display = "[0][18446744073709551615].\"\".\" .[\\\"]\\\\\"[7]" ∧
    parse "a.b[1]" = .ok ⟨[.key "a", .key "b", .index 1]⟩ ∧
    parse (display ⟨[.key "a", .key "b", .index 1]⟩) = .ok ⟨[.key "a", .key "b", .index 1]⟩ := by
  have hfits : awkward.Fits := by
    simp [Fits, awkward, Step.Fits, indexBound, UInt64.size]
  have hread : parse "a.b[1]" = .ok ⟨[.key "a", .key "b", .index 1]⟩ := by decide +kernel
  exact ⟨hfits, parse_display.1 awkward hfits, by decide +kernel, hread,
    parse_display.2 "a.b[1]" _ hread⟩

end Query

end Conventions
