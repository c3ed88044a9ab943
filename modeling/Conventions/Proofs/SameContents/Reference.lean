import Conventions.SameContents.Reference
import Mathlib.Tactic.Common

/-!
# The reference that is picked

A group is compared with the first of its fullest modules that leaves the fewest
problems. Both searches go through the modules once; what they know after some of them
is an invariant that one more module preserves.
-/

namespace Conventions.SameContents

/-! ### The modules that have the most -/

/-- What `leaders` knows once the modules `seen` were counted with `own`: no module has
more than the most, and those that have it are kept in their order, unless it is zero. -/
structure Leaders.Of (own : RepoModule → Nat) (seen : List RepoModule) (leaders : Leaders) :
    Prop where
  own_le_most : ∀ module ∈ seen, own module ≤ leaders.most
  most_attained : leaders.most = 0 ∨ ∃ module ∈ seen, own module = leaders.most
  members_eq : leaders.members =
    seen.filter fun module => decide (own module = leaders.most ∧ 0 < leaders.most)

/-- A module with more than all before it is the only leader. -/
theorem Leaders.add_of_lt {count : Nat} {leaders : Leaders} (h : leaders.most < count)
    (module : RepoModule) : leaders.add count module = ⟨count, [module]⟩ := by
  have hpos : 0 < count := by omega
  simp [Leaders.add, h, hpos]

/-- Any other module joins the leaders if it has as much as they have. -/
theorem Leaders.add_of_le {count : Nat} {leaders : Leaders} (h : count ≤ leaders.most)
    (module : RepoModule) : leaders.add count module =
      ⟨leaders.most, leaders.members ++
        [module].filter fun _ => decide (count = leaders.most ∧ 0 < leaders.most)⟩ := by
  have hmore : ¬ leaders.most < count := by omega
  simp only [Leaders.add, if_neg hmore]
  by_cases heq : count = leaders.most
  · subst heq
    by_cases hpos : 0 < leaders.most
    · simp [hpos]
    · simp [hpos]
  · simp [heq]

/-- Before any module was counted there are no leaders. -/
theorem Leaders.Of.nil (own : RepoModule → Nat) : Leaders.none.Of own [] where
  own_le_most := by simp
  most_attained := Or.inl rfl
  members_eq := rfl

/-- Counting one more module keeps what is known about the leaders. -/
theorem Leaders.Of.add {own : RepoModule → Nat} {seen : List RepoModule} {leaders : Leaders}
    (h : leaders.Of own seen) (module : RepoModule) :
    (leaders.add (own module) module).Of own (seen ++ [module]) := by
  obtain ⟨hle, hattained, hmembers⟩ := h
  by_cases hmore : leaders.most < own module
  · rw [Leaders.add_of_lt hmore]
    -- No module counted before has as much as the new one.
    have hless : ∀ other ∈ seen, own other < own module := fun other hother =>
      Nat.lt_of_le_of_lt (hle other hother) hmore
    have hpos : 0 < own module := by omega
    refine ⟨?_, Or.inr ⟨module, by simp, rfl⟩, ?_⟩
    · intro other hother
      rcases List.mem_append.mp hother with hother | hother
      · exact Nat.le_of_lt (hless other hother)
      · exact Nat.le_of_eq (congrArg own (List.mem_singleton.mp hother))
    · have hnone : (seen.filter fun other =>
          decide (own other = own module ∧ 0 < own module)) = [] := by
        apply List.filter_eq_nil_iff.mpr
        intro other hother heq
        have hlt := hless other hother
        have heq : own other = own module ∧ 0 < own module := by simpa using heq
        omega
      rw [List.filter_append, hnone]
      simp [hpos]
  · have hbound : own module ≤ leaders.most := by omega
    rw [Leaders.add_of_le hbound]
    refine ⟨?_, ?_, ?_⟩
    · intro other hother
      rcases List.mem_append.mp hother with hother | hother
      · exact hle other hother
      · rw [List.mem_singleton.mp hother]
        exact hbound
    · rcases hattained with hzero | ⟨other, hother, heq⟩
      · exact Or.inl hzero
      · exact Or.inr ⟨other, by simp [hother], heq⟩
    · rw [List.filter_append, hmembers]
      simp only [List.filter_cons, List.filter_nil]

/-- Counting modules one after the other finds the leaders among all of them. -/
theorem Leaders.Of.foldl {own : RepoModule → Nat} {seen : List RepoModule} {leaders : Leaders}
    (h : leaders.Of own seen) (modules : List RepoModule) :
    (modules.foldl (fun leaders module => leaders.add (own module) module) leaders).Of own
      (seen ++ modules) := by
  induction modules generalizing seen leaders with
  | nil => simpa using h
  | cons module rest ih =>
    have hnext := ih (h.add module)
    rwa [List.append_assoc] at hnext

/-! ### The comparison that leaves the fewest problems -/

/-- A comparison is the first of those that leave the fewest problems. -/
def Trial.IsBestOf (trials : List Trial) (best : Trial) : Prop :=
  ∃ before after, trials = before ++ best :: after ∧
    (∀ trial ∈ before, best.problems < trial.problems) ∧
    ∀ trial ∈ after, best.problems ≤ trial.problems

/-- One more comparison: the best of them all is the best so far or the new one. -/
theorem Trial.IsBestOf.better {trials : List Trial} {best : Trial}
    (h : best.IsBestOf trials) (trial : Trial) :
    ∃ next, Trial.better (some best) trial = some next ∧ next.IsBestOf (trials ++ [trial]) := by
  obtain ⟨before, after, htrials, hbefore, hafter⟩ := h
  by_cases hfewer : trial.problems < best.problems
  · refine ⟨trial, if_pos hfewer, trials, [], rfl, ?_, by simp⟩
    intro other hother
    rw [htrials] at hother
    rcases List.mem_append.mp hother with hother | hother
    · exact Nat.lt_trans hfewer (hbefore other hother)
    · rcases List.mem_cons.mp hother with rfl | hother
      · exact hfewer
      · exact Nat.lt_of_lt_of_le hfewer (hafter other hother)
  · refine ⟨best, if_neg hfewer, before, after ++ [trial], by simp [htrials], hbefore, ?_⟩
    intro other hother
    rcases List.mem_append.mp hother with hother | hother
    · exact hafter other hother
    · rw [List.mem_singleton.mp hother]
      omega

/-- Going on from the best so far ends with the best of all comparisons. -/
theorem Trial.IsBestOf.foldl {trials : List Trial} {best : Trial}
    (h : best.IsBestOf trials) (more : List Trial) :
    ∃ last, more.foldl Trial.better (some best) = some last ∧
      last.IsBestOf (trials ++ more) := by
  induction more generalizing trials best with
  | nil => exact ⟨best, rfl, by simpa using h⟩
  | cons trial rest ih =>
    obtain ⟨next, hnext, hbest⟩ := h.better trial
    obtain ⟨last, hlast, hall⟩ := ih hbest
    refine ⟨last, ?_, ?_⟩
    · rw [List.foldl_cons, hnext, hlast]
    · rwa [List.append_assoc] at hall

/-- Where there are comparisons, the search ends with the best of them. -/
theorem Trial.foldl_better (trials : List Trial) (h : trials ≠ []) :
    ∃ best, trials.foldl Trial.better none = some best ∧ best.IsBestOf trials := by
  cases trials with
  | nil => exact absurd rfl h
  | cons trial rest =>
    have hfirst : trial.IsBestOf [trial] := ⟨[], [], rfl, by simp, by simp⟩
    exact hfirst.foldl rest

/-! ### Picking a reference -/

section

variable (round : Similarity.Rounding) (workspace : Workspace) (group : Group)

/-- A member that has something of what is compared, and no less than any other member. -/
def IsFullest (module : RepoModule) : Prop :=
  module ∈ group.members ∧ 0 < ownCount round workspace group.options module ∧
    ∀ other ∈ group.members,
      ownCount round workspace group.options other ≤ ownCount round workspace group.options module

/-- How many problems there are if a group is compared with a module. -/
def problemsWith (reference : RepoModule) : Nat :=
  (trial round workspace group reference).problems

/-- The members are counted one after the other. -/
theorem leaders_of : (leaders round workspace group).Of
    (ownCount round workspace group.options) group.members :=
  (Leaders.Of.nil _).foldl group.members

/-- The fullest members are searched for a reference. -/
theorem mem_leaders_iff (module : RepoModule) :
    module ∈ (leaders round workspace group).members ↔
      IsFullest round workspace group module := by
  obtain ⟨hle, hattained, hmembers⟩ := leaders_of round workspace group
  rw [hmembers]
  simp only [List.mem_filter, decide_eq_true_eq]
  constructor
  · rintro ⟨hmodule, hmost, hpos⟩
    refine ⟨hmodule, by omega, fun other hother => ?_⟩
    have hbound := hle other hother
    omega
  · rintro ⟨hmodule, hpos, hall⟩
    have hbound := hle module hmodule
    rcases hattained with hzero | ⟨other, hother, heq⟩
    · omega
    · have hother := hall other hother
      exact ⟨hmodule, by omega, by omega⟩

/-- There is a leader as soon as a member has something of what is compared. -/
theorem leaders_eq_nil_iff : (leaders round workspace group).members = [] ↔
    ∀ module ∈ group.members, ownCount round workspace group.options module = 0 := by
  obtain ⟨hle, hattained, -⟩ := leaders_of round workspace group
  constructor
  · intro hnil module hmodule
    have hbound := hle module hmodule
    rcases hattained with hzero | ⟨leader, hleader, heq⟩
    · omega
    · by_contra hpos
      have hfullest : IsFullest round workspace group leader := by
        refine ⟨hleader, by omega, fun other hother => ?_⟩
        rw [heq]
        exact hle other hother
      have hmem := (mem_leaders_iff round workspace group leader).mpr hfullest
      rw [hnil] at hmem
      cases hmem
  · intro hnone
    apply List.eq_nil_iff_forall_not_mem.mpr
    intro module hmodule
    obtain ⟨hmember, hpos, -⟩ := (mem_leaders_iff round workspace group module).mp hmodule
    have hzero := hnone module hmember
    omega

/-- A comparison with a fullest member says something about that member itself. -/
theorem compareAll_ne_nil {reference : RepoModule}
    (h : IsFullest round workspace group reference) :
    compareAll round workspace group.options group.members reference ≠ [] := by
  obtain ⟨hmember, hpos, -⟩ := h
  obtain ⟨finding, hfinding, -⟩ := List.countP_pos_iff.mp hpos
  have hmem : finding ∈ compareAll round workspace group.options group.members reference :=
    List.mem_flatMap.mpr ⟨reference, hmember, hfinding⟩
  exact List.ne_nil_of_mem hmem

/-- A member is the first of the fullest ones that leaves the fewest problems. -/
def IsBestReference (reference : RepoModule) : Prop :=
  IsFullest round workspace group reference ∧
    ∃ before after, group.members = before ++ reference :: after ∧
      (∀ module ∈ before, IsFullest round workspace group module →
        problemsWith round workspace group reference < problemsWith round workspace group module) ∧
      ∀ module ∈ after, IsFullest round workspace group module →
        problemsWith round workspace group reference ≤ problemsWith round workspace group module

/-- If there are leaders, the group is compared with the best reference. -/
theorem compareBest_of_leaders (h : (leaders round workspace group).members ≠ []) :
    ∃ reference, IsBestReference round workspace group reference ∧
      compareBest round workspace group =
        compareAll round workspace group.options group.members reference := by
  obtain ⟨best, hsearch, before, after, htrials, hbefore, hafter⟩ :=
    Trial.foldl_better ((leaders round workspace group).members.map
      (trial round workspace group)) (by simpa using h)
  have hresult : compareBest round workspace group = best.findings := by
    simp only [compareBest, hsearch]
  -- The place of the best comparison is a place among the leaders, and so among the members.
  obtain ⟨earlier, rest, hleaders, hearlier, hrest⟩ := List.map_eq_append_iff.mp htrials
  obtain ⟨reference, later, rfl, rfl, rfl⟩ := List.map_eq_cons_iff.mp hrest
  have hfilter := (leaders_of round workspace group).members_eq
  rw [hfilter] at hleaders
  obtain ⟨first, second, hmembers, hfirst, hsecond⟩ := List.filter_eq_append_iff.mp hleaders
  obtain ⟨skipped, last, rfl, hskipped, hreference, hlast⟩ := List.filter_eq_cons_iff.mp hsecond
  have hpick : ∀ module, IsFullest round workspace group module → decide
      (ownCount round workspace group.options module = (leaders round workspace group).most ∧
        0 < (leaders round workspace group).most) = true := by
    intro module hfullest
    have hmem := (mem_leaders_iff round workspace group module).mpr hfullest
    rw [hfilter] at hmem
    exact (List.mem_filter.mp hmem).2
  refine ⟨reference, ⟨?_, first ++ skipped, last, by simp [hmembers], ?_, ?_⟩, hresult⟩
  · apply (mem_leaders_iff round workspace group reference).mp
    rw [hfilter, hmembers]
    exact List.mem_filter.mpr ⟨by simp, hreference⟩
  · intro module hmodule hfullest
    have hearly : module ∈ earlier := by
      rcases List.mem_append.mp hmodule with hmodule | hmodule
      · rw [← hfirst]
        exact List.mem_filter.mpr ⟨hmodule, hpick module hfullest⟩
      · exact absurd (hpick module hfullest) (hskipped module hmodule)
    apply hbefore
    rw [← hearlier]
    exact List.mem_map.mpr ⟨module, hearly, rfl⟩
  · intro module hmodule hfullest
    have hlate : module ∈ later := by
      rw [← hlast]
      exact List.mem_filter.mpr ⟨hmodule, hpick module hfullest⟩
    apply hafter
    exact List.mem_map.mpr ⟨module, hlate, rfl⟩

/-- A group without a named reference is compared with the first of its fullest members
that leaves the fewest problems. There are no findings exactly if no member has anything
of what is compared. -/
theorem compareBest_eq_first_fewest :
    ((∃ reference, IsBestReference round workspace group reference ∧
        compareBest round workspace group =
          compareAll round workspace group.options group.members reference) ∨
      compareBest round workspace group = []) ∧
    (compareBest round workspace group = [] ↔
      ∀ module ∈ group.members, ownCount round workspace group.options module = 0) := by
  by_cases hnil : (leaders round workspace group).members = []
  · have hempty : compareBest round workspace group = [] := by simp [compareBest, hnil]
    exact ⟨Or.inr hempty, fun _ => (leaders_eq_nil_iff round workspace group).mp hnil,
      fun _ => hempty⟩
  · obtain ⟨reference, hbest, hresult⟩ := compareBest_of_leaders round workspace group hnil
    have hsome : compareBest round workspace group ≠ [] := by
      rw [hresult]
      exact compareAll_ne_nil round workspace group hbest.1
    exact ⟨Or.inl ⟨reference, hbest, hresult⟩, fun hempty => absurd hempty hsome,
      fun hnone => absurd ((leaders_eq_nil_iff round workspace group).mpr hnone) hnil⟩

end

end Conventions.SameContents
