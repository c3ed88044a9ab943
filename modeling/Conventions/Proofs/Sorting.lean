import Conventions.Sorting
import Mathlib.Tactic.Common

/-!
# Orders and sorting

The orders of texts, lists and pairs are orders in the usual sense. The sort that can be
computed by unfolding gives the same lists as `List.mergeSort`, so what is known of that one
carries over: a sorted list has the same items, and none of them comes before an earlier one.
-/

namespace Conventions

variable {α β : Type}

/-! ### Orders -/

/-- A function tells which of two things comes before the other, where things of which none
comes before the other count as equal. -/
structure IsOrder (before : α → α → Bool) : Prop where
  asymm : ∀ {a b}, before a b = true → before b a = false
  cotrans : ∀ {a c} b, before a c = true → before a b = true ∨ before b c = true

/-- An order in which only equal things count as equal. -/
structure IsLinear (before : α → α → Bool) : Prop extends IsOrder before where
  eq_of_not : ∀ {a b}, before a b = false → before b a = false → a = b

namespace IsOrder

variable {before : α → α → Bool}

/-- Nothing comes before itself. -/
theorem irrefl (h : IsOrder before) (a : α) : before a a = false := by
  by_contra hself
  have hself : before a a = true := by simpa using hself
  rw [h.asymm hself] at hself
  cases hself

/-- What comes before something comes before what does not come before that. -/
theorem before_of_not (h : IsOrder before) {a b c : α} (hab : before a b = true)
    (hcb : before c b = false) : before a c = true := by
  rcases h.cotrans c hab with hac | hcb'
  · exact hac
  · rw [hcb] at hcb'
    cases hcb'

/-- The order carries over a thing between two others. -/
theorem trans (h : IsOrder before) {a b c : α} (hab : before a b = true)
    (hbc : before b c = true) : before a c = true := h.before_of_not hab (h.asymm hbc)

/-- Not coming before carries over a thing between two others. -/
theorem not_trans (h : IsOrder before) {a b c : α} (hba : before b a = false)
    (hcb : before c b = false) : before c a = false := by
  rw [← Bool.not_eq_true]
  intro hca
  rcases h.cotrans b hca with hcb' | hba'
  · rw [hcb] at hcb'
    cases hcb'
  · rw [hba] at hba'
    cases hba'

/-- Things can be ordered by a feature of theirs. -/
theorem comap (h : IsOrder before) (feature : β → α) :
    IsOrder fun a b => before (feature a) (feature b) where
  asymm hab := h.asymm hab
  cotrans b hac := h.cotrans (feature b) hac

end IsOrder

/-- Lists are ordered by their first difference. -/
theorem IsLinear.listBefore [DecidableEq α] {before : α → α → Bool} (h : IsLinear before) :
    IsLinear (listBefore before) where
  asymm := by
    intro as bs hab
    induction as generalizing bs with
    | nil =>
      cases bs with
      | nil => simp [Conventions.listBefore] at hab
      | cons b bs => rfl
    | cons a as ih =>
      cases bs with
      | nil => simp [Conventions.listBefore] at hab
      | cons b bs =>
        by_cases heq : a = b
        · subst heq
          simp only [Conventions.listBefore, if_true] at hab ⊢
          exact ih hab
        · simp only [Conventions.listBefore, if_neg heq, if_neg (Ne.symm heq)] at hab ⊢
          exact h.asymm hab
  cotrans := by
    intro as cs bs hac
    induction as generalizing bs cs with
    | nil =>
      cases bs with
      | nil => exact Or.inr hac
      | cons b bs => exact Or.inl rfl
    | cons a as ih =>
      cases cs with
      | nil => simp [Conventions.listBefore] at hac
      | cons c cs =>
        cases bs with
        | nil => exact Or.inr rfl
        | cons b bs =>
          simp only [Conventions.listBefore] at hac ⊢
          by_cases hab : a = b
          · subst hab
            by_cases hac' : a = c
            · rw [if_pos hac'] at hac ⊢
              simpa using ih bs hac
            · rw [if_neg hac'] at hac ⊢
              exact Or.inr hac
          · rw [if_neg hab]
            by_cases hac' : a = c
            · subst hac'
              rw [if_neg (Ne.symm hab)]
              by_contra hnot
              simp only [not_or, Bool.not_eq_true] at hnot
              exact hab (h.eq_of_not hnot.1 hnot.2)
            · rw [if_neg hac'] at hac
              by_cases hbc : b = c
              · subst hbc
                exact Or.inl hac
              · rw [if_neg hbc]
                exact h.cotrans b hac
  eq_of_not := by
    intro as bs hab hba
    induction as generalizing bs with
    | nil =>
      cases bs with
      | nil => rfl
      | cons b bs => simp [Conventions.listBefore] at hab
    | cons a as ih =>
      cases bs with
      | nil => simp [Conventions.listBefore] at hba
      | cons b bs =>
        simp only [Conventions.listBefore] at hab hba
        by_cases heq : a = b
        · subst heq
          rw [if_pos rfl] at hab hba
          rw [ih hab hba]
        · rw [if_neg heq] at hab
          rw [if_neg (Ne.symm heq)] at hba
          exact absurd (h.eq_of_not hab hba) heq

/-- Pairs are ordered by their first parts, and then by their second ones. -/
theorem IsLinear.pairBefore [DecidableEq α] {before : α → α → Bool} {before' : β → β → Bool}
    (h : IsLinear before) (h' : IsOrder before') : IsOrder (pairBefore before before') where
  asymm := by
    rintro ⟨a, a'⟩ ⟨b, b'⟩ hab
    unfold Conventions.pairBefore at hab ⊢
    by_cases heq : a = b
    · subst heq
      simpa using h'.asymm (by simpa using hab)
    · rw [if_neg (Ne.symm heq)]
      rw [if_neg heq] at hab
      exact h.asymm hab
  cotrans := by
    rintro ⟨a, a'⟩ ⟨c, c'⟩ ⟨b, b'⟩ hac
    simp only [Conventions.pairBefore] at hac ⊢
    by_cases hab : a = b
    · subst hab
      by_cases hac' : a = c
      · rw [if_pos hac'] at hac ⊢
        simpa using h'.cotrans b' hac
      · rw [if_neg hac'] at hac ⊢
        exact Or.inr hac
    · rw [if_neg hab]
      by_cases hbc : b = c
      · subst hbc
        rw [if_neg hab] at hac
        exact Or.inl hac
      · rw [if_neg hbc]
        by_cases hac' : a = c
        · subst hac'
          by_contra hnot
          simp only [not_or, Bool.not_eq_true] at hnot
          exact hab (h.eq_of_not hnot.1 hnot.2)
        · rw [if_neg hac'] at hac
          exact h.cotrans b hac

/-- Texts are ordered. -/
theorem isLinear_textBefore : IsLinear textBefore := by
  have hchar : IsLinear fun a b : Char => decide (a.toNat < b.toNat) := by
    refine ⟨⟨?_, ?_⟩, ?_⟩
    · intro a b hab
      simp only [decide_eq_true_eq, decide_eq_false_iff_not] at hab ⊢
      omega
    · intro a c b hac
      simp only [decide_eq_true_eq] at hac ⊢
      omega
    · intro a b hab hba
      simp only [decide_eq_false_iff_not] at hab hba
      exact Char.toNat_inj.mp (by omega)
  have hlists := hchar.listBefore
  exact {
    asymm := hlists.asymm
    cotrans := fun b hac => hlists.cotrans b.toList hac
    eq_of_not := fun hab hba => String.toList_inj.mp (hlists.eq_of_not hab hba) }

/-! ### Sorting -/

section

variable (le : α → α → Bool)

/-- Both merges agree. -/
theorem mergeBy_eq_merge (items others : List α) :
    mergeBy le items others = List.merge items others le := by
  fun_induction mergeBy le items others with
  | case1 others => simp
  | case2 items => simp
  | case3 a items b others hle ih => rw [ih, List.cons_merge_cons, if_pos hle]
  | case4 a items b others hle ih => rw [ih, List.cons_merge_cons, if_neg hle]

/-- Both sorts agree. -/
theorem sortBy_eq_mergeSort (items : List α) : sortBy le items = List.mergeSort items le := by
  fun_induction sortBy le items with
  | case1 => simp
  | case2 item => simp
  | case3 first second rest items half ihtake ihdrop =>
    rw [ihtake, ihdrop, mergeBy_eq_merge, List.mergeSort,
      List.MergeSort.Internal.splitInTwo_fst, List.MergeSort.Internal.splitInTwo_snd]

/-- Sorting only changes the order. -/
theorem sortBy_perm (items : List α) : (sortBy le items).Perm items := by
  rw [sortBy_eq_mergeSort]
  exact List.mergeSort_perm items le

/-- Sorting adds and loses nothing. -/
@[simp] theorem mem_sortBy {items : List α} {item : α} : item ∈ sortBy le items ↔ item ∈ items :=
  (sortBy_perm le items).mem_iff

end

/-- In a list that is sorted by an order, nothing comes before what stands earlier. -/
theorem IsOrder.pairwise_sortBy {before : α → α → Bool} (h : IsOrder before) (items : List α) :
    (sortBy (fun a b => !before b a) items).Pairwise fun a b => before b a = false := by
  have hsorted : (sortBy (fun a b => !before b a) items).Pairwise
      fun a b => (!before b a) = true := by
    rw [sortBy_eq_mergeSort]
    refine List.pairwise_mergeSort (fun a b c hab hbc => ?_) (fun a b => ?_) items
    · simp only [Bool.not_eq_true'] at hab hbc ⊢
      exact h.not_trans hab hbc
    · by_cases hba : before b a = true
      · simp [h.asymm hba]
      · simp [hba]
  simpa using hsorted

end Conventions
