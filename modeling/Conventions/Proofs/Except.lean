import Mathlib.Data.List.Forall2

/-!
# Results that may be missing

What is known of the parts of a computation once it has given a result.
-/

namespace Conventions

variable {ε α β : Type}

/-- A computation of two steps has a result if the first one has one from which the
second one goes on to it. -/
theorem bind_eq_ok_iff {first : Except ε α} {next : α → Except ε β} {result : β} :
    first >>= next = .ok result ↔ ∃ value, first = .ok value ∧ next value = .ok result := by
  cases first with
  | error reason =>
    constructor
    · intro h
      cases h
    · rintro ⟨value, h, -⟩
      cases h
  | ok value =>
    constructor
    · exact fun h => ⟨value, rfl, h⟩
    · rintro ⟨other, h, hnext⟩
      cases h
      exact hnext

/-- A computation of two steps fails if the first one does, or the second one on the result of the
first. -/
theorem bind_eq_error_iff {first : Except ε α} {next : α → Except ε β} {reason : ε} :
    first >>= next = .error reason ↔
      first = .error reason ∨ ∃ value, first = .ok value ∧ next value = .error reason := by
  cases first with
  | error other => simp [bind, Except.bind]
  | ok value => simp [bind, Except.bind]

/-- A second step that agrees with another one on the result of the first step can be
replaced by it. -/
theorem bind_congr_of_ok {first : Except ε α} {next next' : α → Except ε β}
    (h : ∀ value, first = .ok value → next value = next' value) :
    first >>= next = first >>= next' := by
  cases first with
  | error reason => rfl
  | ok value => exact h value rfl

/-- Another reason for a failure does not touch the results. -/
theorem mapError_eq_ok_iff {δ : Type} {change : ε → δ} {computation : Except ε α} {result : α} :
    computation.mapError change = .ok result ↔ computation = .ok result := by
  cases computation with
  | error reason => simp [Except.mapError]
  | ok value => simp [Except.mapError]

/-- A failure for which another reason is given is still one. -/
theorem mapError_eq_error_iff {δ : Type} {change : ε → δ} {computation : Except ε α} {reason : δ} :
    computation.mapError change = .error reason ↔
      ∃ original, computation = .error original ∧ change original = reason := by
  cases computation with
  | error original => simp [Except.mapError]
  | ok value => simp [Except.mapError]

/-- A computation whose result is changed has a result if it has one before. -/
theorem map_eq_ok_iff {change : α → β} {computation : Except ε α} {result : β} :
    computation.map change = .ok result ↔
      ∃ value, computation = .ok value ∧ change value = result := by
  cases computation with
  | error reason => simp [Except.map]
  | ok value => simp [Except.map]

/-- A test of a result is passed if there is one that passes it. -/
theorem any_toOption_iff {computation : Except ε α} {test : α → Bool} :
    computation.toOption.any test = true ↔
      ∃ result, computation = .ok result ∧ test result = true := by
  cases computation with
  | error reason => simp [Except.toOption]
  | ok result => simp [Except.toOption]

/-- A result that passes a test is there. -/
theorem exists_ok_of_any {computation : Except ε α} {test : α → Bool}
    (h : computation.toOption.any test = true) :
    ∃ result, computation = .ok result ∧ test result = true :=
  any_toOption_iff.mp h

/-- What the first value has and every step keeps, the last value has. -/
theorem has_of_foldlM {step : β → α → Except ε β} (has : β → Prop)
    (hstep : ∀ {before item after}, has before → step before item = .ok after → has after)
    {items : List α} {before after : β} (hbefore : has before)
    (h : items.foldlM step before = .ok after) : has after := by
  induction items generalizing before with
  | nil =>
    cases h
    exact hbefore
  | cons item rest ih =>
    rw [List.foldlM_cons] at h
    obtain ⟨next, hnext, hrest⟩ := bind_eq_ok_iff.mp h
    exact ih (hstep hbefore hnext) hrest

/-- What every step keeps, all of them one after the other keep. -/
theorem foldlM_of_step {step : β → α → Except ε β} {keeps : β → β → Prop}
    (hrefl : ∀ value, keeps value value)
    (htrans : ∀ {first second third}, keeps first second → keeps second third → keeps first third)
    (hstep : ∀ {before item after}, step before item = .ok after → keeps before after)
    {items : List α} {before after : β} (h : items.foldlM step before = .ok after) :
    keeps before after :=
  has_of_foldlM (keeps before) (fun hkeeps hitem => htrans hkeeps (hstep hitem)) (hrefl before) h

/-- Where steps one after the other fail, there is a first one that does, on the value that the
steps before it have reached. This value has what the first value has and every step keeps. -/
theorem exists_first_of_foldlM_eq_error {step : β → α → Except ε β} (has : β → Prop)
    (hstep : ∀ {before item after}, has before → step before item = .ok after → has after)
    {items : List α} {start : β} {reason : ε} (hstart : has start)
    (h : items.foldlM step start = .error reason) :
    ∃ before item after reached, items = before ++ item :: after ∧
      before.foldlM step start = .ok reached ∧ has reached ∧ step reached item = .error reason := by
  induction items generalizing start with
  | nil => cases h
  | cons first rest ih =>
    rw [List.foldlM_cons] at h
    rcases bind_eq_error_iff.mp h with hfirst | ⟨next, hnext, hrest⟩
    · exact ⟨[], first, rest, start, rfl, rfl, hstart, hfirst⟩
    · obtain ⟨before, item, after, reached, rfl, hreached, hhas, hfails⟩ :=
        ih (hstep hstart hnext) hrest
      refine ⟨first :: before, item, after, reached, rfl, ?_, hhas, hfails⟩
      rw [List.foldlM_cons]
      exact bind_eq_ok_iff.mpr ⟨next, hnext, hreached⟩

/-- Where steps one after the other fail, one of them does, on a value that has what the first
value has and every step keeps. -/
theorem exists_item_of_foldlM_eq_error {step : β → α → Except ε β} (has : β → Prop)
    (hstep : ∀ {before item after}, has before → step before item = .ok after → has after)
    {items : List α} {before : β} {reason : ε} (hbefore : has before)
    (h : items.foldlM step before = .error reason) :
    ∃ item ∈ items, ∃ reached, has reached ∧ step reached item = .error reason := by
  obtain ⟨_, item, _, reached, rfl, -, hreached, hfails⟩ :=
    exists_first_of_foldlM_eq_error has hstep hbefore h
  exact ⟨item, by simp, reached, hreached, hfails⟩

/-- Where steps one after the other have a result, each of them has one. -/
theorem exists_ok_of_foldlM {step : β → α → Except ε β} {items : List α} {start last : β}
    (h : items.foldlM step start = .ok last) :
    ∀ item ∈ items, ∃ before after, step before item = .ok after := by
  induction items generalizing start with
  | nil => simp
  | cons first rest ih =>
    rw [List.foldlM_cons] at h
    obtain ⟨next, hnext, hrest⟩ := bind_eq_ok_iff.mp h
    intro item hitem
    rcases List.mem_cons.mp hitem with rfl | hitem
    · exact ⟨start, next, hnext⟩
    · exact ih hrest item hitem

/-- Steps for all items of a list have results if each one has. -/
theorem mapM_eq_ok_iff {step : α → Except ε β} {items : List α} {results : List β} :
    items.mapM step = .ok results ↔
      List.Forall₂ (fun item result => step item = .ok result) items results := by
  induction items generalizing results with
  | nil =>
    rw [List.mapM_nil]
    constructor
    · intro h
      cases h
      exact .nil
    · intro h
      cases h
      rfl
  | cons item rest ih =>
    rw [List.mapM_cons, bind_eq_ok_iff]
    constructor
    · rintro ⟨result, hfirst, hrest⟩
      obtain ⟨more, hmore, hresults⟩ := bind_eq_ok_iff.mp hrest
      cases hresults
      exact .cons hfirst (ih.mp hmore)
    · intro h
      cases h with
      | cons hfirst hrest =>
        exact ⟨_, hfirst, bind_eq_ok_iff.mpr ⟨_, ih.mpr hrest, rfl⟩⟩

/-- Steps for a list have results if they have for the items before one, for this one, and for those
behind it. -/
theorem mapM_append_cons_eq_ok_iff {step : α → Except ε β} {before after : List α} {item : α}
    {results : List β} : (before ++ item :: after).mapM step = .ok results ↔
      ∃ first result last, before.mapM step = .ok first ∧ step item = .ok result ∧
        after.mapM step = .ok last ∧ results = first ++ result :: last := by
  rw [List.mapM_append, List.mapM_cons]
  constructor
  · intro h
    obtain ⟨first, hfirst, h⟩ := bind_eq_ok_iff.mp h
    obtain ⟨others, hothers, h⟩ := bind_eq_ok_iff.mp h
    obtain ⟨result, hresult, hothers⟩ := bind_eq_ok_iff.mp hothers
    obtain ⟨last, hlast, hothers⟩ := bind_eq_ok_iff.mp hothers
    cases hothers
    cases h
    exact ⟨first, result, last, hfirst, hresult, hlast, rfl⟩
  · rintro ⟨first, result, last, hfirst, hresult, hlast, rfl⟩
    rw [hfirst, hresult, hlast]
    rfl

/-- Steps that agree on all items of a list agree on the list. -/
theorem mapM_congr_of_mem {step step' : α → Except ε β} {items : List α}
    (h : ∀ item ∈ items, step item = step' item) : items.mapM step = items.mapM step' := by
  induction items with
  | nil => rfl
  | cons item rest ih =>
    rw [List.mapM_cons, List.mapM_cons, h item (by simp),
      ih fun more hmore => h more (List.mem_cons_of_mem _ hmore)]

/-- Every result comes from a step for one of the items. -/
theorem exists_item_of_mapM {step : α → Except ε β} {items : List α} {results : List β}
    (h : items.mapM step = .ok results) {result : β} (hresult : result ∈ results) :
    ∃ item ∈ items, step item = .ok result := by
  have hall := mapM_eq_ok_iff.mp h
  clear h
  induction hall with
  | nil => cases hresult
  | cons hfirst _ ih =>
    rcases List.mem_cons.mp hresult with rfl | hresult
    · exact ⟨_, by simp, hfirst⟩
    · obtain ⟨item, hitem, hstep⟩ := ih hresult
      exact ⟨item, List.mem_cons_of_mem _ hitem, hstep⟩

/-- What a step keeps of its item, the results have in the order of the items. -/
theorem map_eq_of_mapM {γ : Type} {step : α → Except ε β} {before : α → γ} {after : β → γ}
    (hstep : ∀ {item result}, step item = .ok result → after result = before item)
    {items : List α} {results : List β} (h : items.mapM step = .ok results) :
    results.map after = items.map before := by
  have hall := mapM_eq_ok_iff.mp h
  clear h
  induction hall with
  | nil => rfl
  | cons hfirst _ ih => rw [List.map_cons, List.map_cons, hstep hfirst, ih]

/-- Where steps for the items of a list fail, one of them does. -/
theorem exists_item_of_mapM_eq_error {step : α → Except ε β} {items : List α} {reason : ε}
    (h : items.mapM step = .error reason) : ∃ item ∈ items, step item = .error reason := by
  induction items with
  | nil => cases h
  | cons item rest ih =>
    rw [List.mapM_cons] at h
    rcases bind_eq_error_iff.mp h with hfirst | ⟨result, -, hmore⟩
    · exact ⟨item, List.mem_cons_self, hfirst⟩
    · rcases bind_eq_error_iff.mp hmore with hrest | ⟨results, -, hnever⟩
      · obtain ⟨other, hother, hfails⟩ := ih hrest
        exact ⟨other, List.mem_cons_of_mem _ hother, hfails⟩
      · cases hnever

/-- The results are those of the steps for the items. -/
theorem mem_iff_of_mapM {step : α → Except ε β} {items : List α} {results : List β}
    (h : items.mapM step = .ok results) {result : β} :
    result ∈ results ↔ ∃ item ∈ items, step item = .ok result := by
  refine ⟨exists_item_of_mapM h, ?_⟩
  rintro ⟨item, hitem, hstep⟩
  have hall := mapM_eq_ok_iff.mp h
  clear h
  induction hall with
  | nil => cases hitem
  | cons hfirst _ ih =>
    rcases List.mem_cons.mp hitem with rfl | hitem
    · cases hstep.symm.trans hfirst
      simp
    · exact List.mem_cons_of_mem _ (ih hitem)

/-- There are results for a list if there is one for each item. -/
theorem exists_mapM_iff {step : α → Except ε β} {items : List α} :
    (∃ results, items.mapM step = .ok results) ↔
      ∀ item ∈ items, ∃ result, step item = .ok result := by
  induction items with
  | nil => exact ⟨fun _ item hitem => (List.not_mem_nil hitem).elim, fun _ => ⟨[], rfl⟩⟩
  | cons item rest ih =>
    simp only [mapM_eq_ok_iff, List.forall₂_cons_left_iff, List.forall_mem_cons] at ih ⊢
    rw [← ih]
    constructor
    · rintro ⟨_, result, results, hfirst, hrest, -⟩
      exact ⟨⟨result, hfirst⟩, results, hrest⟩
    · rintro ⟨⟨result, hfirst⟩, results, hrest⟩
      exact ⟨result :: results, result, results, hfirst, hrest, rfl⟩

end Conventions
