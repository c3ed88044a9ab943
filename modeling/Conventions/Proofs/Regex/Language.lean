import Conventions.Regex.Basic
import Mathlib.Tactic.Common

/-!
# Where expressions can end

An expression leads from a position of a text to others further on. The positions that the matcher
computes are exactly those. It drops positions that it has already, which it tells apart by what is
left of the text, and it stops repeating after as many steps as the text has characters. Both are
right since all positions come from one text: a step that takes no character leads nowhere.
-/

namespace Conventions

/-- The set of one character contains no other. -/
theorem CharSet.contains_single_iff {c d : Char} : (single c).contains d = true ↔ d = c := by
  rw [single, contains, Bool.and_eq_true, decide_eq_true_iff, decide_eq_true_iff]
  constructor
  · rintro ⟨hle, hge⟩
    exact Char.le_antisymm hge hle
  · rintro rfl
    exact ⟨Char.le_refl d, Char.le_refl d⟩

namespace Regex

/-! ### Positions of one text -/

/-- Characters are passed over from one position to another. -/
inductive Position.Passes : Position → List Char → Position → Prop
  | stay (p : Position) : Passes p [] p
  | next {before : Option Char} {c : Char} {rest word : List Char} {q : Position} :
    Passes ⟨some c, rest⟩ word q → Passes ⟨before, c :: rest⟩ (c :: word) q

/-- A position is in the text behind another one, or is the same. -/
def Position.Reaches (p q : Position) : Prop := ∃ word, p.Passes word q

namespace Position

variable {p q r : Position} {word more : List Char}

/-- Where nothing is passed over, the position stays. -/
theorem passes_nil : p.Passes [] q ↔ q = p := by
  constructor
  · rintro (_ | _)
    rfl
  · rintro rfl
    exact .stay _

/-- What is passed over stands before what is left. -/
theorem Passes.rest_eq (h : p.Passes word q) : p.rest = word ++ q.rest := by
  induction h with
  | stay => rfl
  | next _ ih => rw [List.cons_append, ← ih]

/-- One may pass over one word and then over another. -/
theorem Passes.append (h : p.Passes word q) (hmore : q.Passes more r) :
    p.Passes (word ++ more) r := by
  induction h with
  | stay => exact hmore
  | next _ ih => exact .next (ih hmore)

/-- A position is passed between two words that are passed over together. -/
theorem Passes.exists_between (h : p.Passes (word ++ more) r) :
    ∃ q, p.Passes word q ∧ q.Passes more r := by
  induction word generalizing p with
  | nil => exact ⟨p, .stay p, h⟩
  | cons c word ih =>
    cases h with
    | next h =>
      obtain ⟨q, hword, hmore⟩ := ih h
      exact ⟨q, .next hword, hmore⟩

/-- Every start of what is left can be passed over. -/
theorem exists_passes_of_rest_eq {rest : List Char} (h : p.rest = word ++ rest) :
    ∃ q, p.Passes word q ∧ q.rest = rest := by
  induction word generalizing p with
  | nil => exact ⟨p, .stay p, h⟩
  | cons c word ih =>
    obtain ⟨before, left⟩ := p
    obtain rfl : left = c :: (word ++ rest) := h
    obtain ⟨q, hword, hrest⟩ := ih (p := ⟨some c, word ++ rest⟩) rfl
    exact ⟨q, .next hword, hrest⟩

/-- Behind a character there is a character before the position. -/
theorem Passes.isSome_before (h : p.Passes word q) (hword : word ≠ []) :
    q.before.isSome = true := by
  induction h with
  | stay => exact absurd rfl hword
  | @next before c rest word q h ih =>
    by_cases hmore : word = []
    · subst hmore
      cases h
      rfl
    · exact ih hmore

/-- A position reaches itself. -/
theorem Reaches.refl (p : Position) : p.Reaches p := ⟨[], .stay p⟩

/-- What is behind a position that is behind another one is behind that one, too. -/
theorem Reaches.trans (h : p.Reaches q) (hmore : q.Reaches r) : p.Reaches r := by
  obtain ⟨word, hword⟩ := h
  obtain ⟨more, hmore⟩ := hmore
  exact ⟨word ++ more, hword.append hmore⟩

/-- Further on, no more of the text is left. -/
theorem Reaches.length_le (h : p.Reaches q) : q.rest.length ≤ p.rest.length := by
  obtain ⟨word, hword⟩ := h
  have hrest := congrArg List.length hword.rest_eq
  rw [List.length_append] at hrest
  omega

/-- Positions of one text are told apart by how much of it is left. -/
theorem Reaches.eq_of_length_eq (hq : p.Reaches q) (hr : p.Reaches r)
    (h : q.rest.length = r.rest.length) : q = r := by
  obtain ⟨word, hword⟩ := hq
  induction hword with
  | stay q =>
    obtain ⟨word, hword⟩ := hr
    cases hword with
    | stay => rfl
    | next hmore =>
      have hle := Reaches.length_le ⟨_, hmore⟩
      simp only [List.length_cons] at h hle
      omega
  | next hmore ih =>
    obtain ⟨other, hother⟩ := hr
    cases hother with
    | stay =>
      have hle := Reaches.length_le ⟨_, hmore⟩
      simp only [List.length_cons] at h hle
      omega
    | next hother => exact ih ⟨_, hother⟩ h

/-- Positions of one text are the same if they are not told apart. -/
theorem Reaches.same_iff (hq : p.Reaches q) (hr : p.Reaches r) : q.same r = true ↔ q = r := by
  rw [same, beq_iff_eq]
  refine ⟨hq.eq_of_length_eq hr, ?_⟩
  rintro rfl
  rfl

end Position

/-- New positions of one text are those that are not known. -/
theorem mem_fresh {origin q : Position} {known places : List Position}
    (hknown : ∀ k ∈ known, origin.Reaches k) (hplaces : ∀ p ∈ places, origin.Reaches p) :
    q ∈ fresh known places ↔ q ∈ places ∧ q ∉ known := by
  induction places generalizing known with
  | nil => simp [fresh]
  | cons p places ih =>
    obtain ⟨hp, hmore⟩ := List.forall_mem_cons.mp hplaces
    have hany : known.any p.same = true ↔ p ∈ known := by
      rw [List.any_eq_true]
      constructor
      · rintro ⟨k, hk, hsame⟩
        rwa [(hp.same_iff (hknown k hk)).mp hsame]
      · intro h
        exact ⟨p, h, (hp.same_iff hp).mpr rfl⟩
    rw [fresh]
    split
    · next hseen =>
      rw [ih hknown hmore, List.mem_cons]
      have hold : p ∈ known := hany.mp hseen
      constructor
      · rintro ⟨hq, hnew⟩
        exact ⟨Or.inr hq, hnew⟩
      · rintro ⟨rfl | hq, hnew⟩
        · exact absurd hold hnew
        · exact ⟨hq, hnew⟩
    · next hseen =>
      have hnew : p ∉ known := fun h => hseen (hany.mpr h)
      rw [List.mem_cons, ih (List.forall_mem_cons.mpr ⟨hp, hknown⟩) hmore, List.mem_cons,
        List.mem_cons, not_or]
      constructor
      · rintro (rfl | ⟨hq, -, hother⟩)
        · exact ⟨Or.inl rfl, hnew⟩
        · exact ⟨Or.inr hq, hother⟩
      · rintro ⟨rfl | hq, hother⟩
        · exact Or.inl rfl
        · by_cases heq : q = p
          · exact Or.inl heq
          · exact Or.inr ⟨hq, heq, hother⟩

/-- Positions of one text are kept, if none are known. -/
theorem mem_fresh_nil {origin q : Position} {places : List Position}
    (hplaces : ∀ p ∈ places, origin.Reaches p) : q ∈ fresh [] places ↔ q ∈ places := by
  have hnone : ∀ k ∈ ([] : List Position), origin.Reaches k := by simp
  simp [mem_fresh hnone hplaces]

/-! ### What an expression stands for -/

/-- So many steps of a relation lead from one position to another. -/
inductive Steps (leads : Position → Position → Prop) : Nat → Position → Position → Prop
  | none (p : Position) : Steps leads 0 p p
  | cons {count : Nat} {p mid q : Position} :
    leads p mid → Steps leads count mid q → Steps leads (count + 1) p q

/-- An expression leads from one position of a text to another. A repetition takes its body at
least so many times and, if there is a bound, goes on up to the bound. -/
def Spans : Regex → Position → Position → Prop
  | empty, p, q => q = p
  | one set, p, q => ∃ c, set.contains c = true ∧ p.Passes [c] q
  | look assertion, p, q => holds assertion p = true ∧ q = p
  | cat a b, p, q => ∃ mid, a.Spans p mid ∧ b.Spans mid q
  | alt a b, p, q => a.Spans p q ∨ b.Spans p q
  | times body least most, p, q =>
    ∃ mid more, (∀ bound ∈ most, more ≤ bound - least) ∧ Steps body.Spans least p mid ∧
      Steps body.Spans more mid q

namespace Steps

variable {leads : Position → Position → Prop} {count more : Nat} {p q r : Position}

/-- One more step can be made. -/
theorem snoc (h : Steps leads count p q) (hlast : leads q r) : Steps leads (count + 1) p r := by
  induction h with
  | none => exact .cons hlast (.none _)
  | cons hfirst _ ih => exact .cons hfirst (ih hlast)

/-- Behind at least one step there is one before the last. -/
theorem exists_last (h : Steps leads (count + 1) p r) :
    ∃ q, Steps leads count p q ∧ leads q r := by
  induction count generalizing p with
  | zero =>
    cases h with
    | cons hfirst hrest =>
      cases hrest
      exact ⟨p, .none p, hfirst⟩
  | succ count ih =>
    cases h with
    | cons hfirst hrest =>
      obtain ⟨q, hmore, hlast⟩ := ih hrest
      exact ⟨q, .cons hfirst hmore, hlast⟩

/-- Steps stay in the text. -/
theorem reaches (hleads : ∀ p q, leads p q → p.Reaches q) (h : Steps leads count p q) :
    p.Reaches q := by
  induction h with
  | none p => exact .refl p
  | cons hfirst _ ih => exact (hleads _ _ hfirst).trans ih

/-- Steps that take no character can be left out, and so no more are needed than the text has
characters. -/
theorem exists_short (hleads : ∀ p q, leads p q → p.Reaches q) (h : Steps leads count p q) :
    ∃ short ≤ count, short ≤ p.rest.length - q.rest.length ∧ Steps leads short p q := by
  induction h with
  | none p => exact ⟨0, Nat.le_refl 0, Nat.zero_le _, .none p⟩
  | @cons count p mid q hfirst hrest ih =>
    obtain ⟨short, hle, hshort, hsteps⟩ := ih
    have hp := hleads p mid hfirst
    have hmid := hsteps.reaches hleads
    by_cases hstay : mid.rest.length = p.rest.length
    · obtain rfl := hp.eq_of_length_eq (.refl p) hstay
      exact ⟨short, Nat.le_succ_of_le hle, hshort, hsteps⟩
    · have hlt := hp.length_le
      have hqle := hmid.length_le
      exact ⟨short + 1, Nat.succ_le_succ hle, by omega, .cons hfirst hsteps⟩

end Steps

/-- An expression stays in the text. -/
theorem Spans.reaches {regex : Regex} {p q : Position} (h : regex.Spans p q) : p.Reaches q := by
  induction regex generalizing p q with
  | empty =>
    obtain rfl := h
    exact .refl _
  | one set =>
    obtain ⟨c, -, hpass⟩ := h
    exact ⟨[c], hpass⟩
  | look assertion =>
    obtain ⟨-, rfl⟩ := h
    exact .refl _
  | cat a b iha ihb =>
    obtain ⟨mid, ha, hb⟩ := h
    exact (iha ha).trans (ihb hb)
  | alt a b iha ihb =>
    rcases h with ha | hb
    · exact iha ha
    · exact ihb hb
  | times body least most ih =>
    obtain ⟨mid, more, -, hleast, hmore⟩ := h
    have hbody : ∀ p q, body.Spans p q → p.Reaches q := fun _ _ => ih
    exact (hleast.reaches hbody).trans (hmore.reaches hbody)

/-! ### What the matcher computes -/

section Search

variable {step : Position → List Position} {leads : Position → Position → Prop}
  (hstep : ∀ p q, q ∈ step p ↔ leads p q) (hleads : ∀ p q, leads p q → p.Reaches q)

include hstep hleads

/-- Steps from positions of one text lead to positions of it. -/
theorem reaches_of_mem_flatMap {origin : Position} {places : List Position}
    (hplaces : ∀ p ∈ places, origin.Reaches p) : ∀ q ∈ places.flatMap step, origin.Reaches q := by
  intro q h
  obtain ⟨p, hp, hq⟩ := List.mem_flatMap.mp h
  exact (hplaces p hp).trans (hleads p q ((hstep p q).mp hq))

/-- The positions after exactly so many steps. -/
theorem mem_exactly {origin q : Position} {count : Nat} {places : List Position}
    (hplaces : ∀ p ∈ places, origin.Reaches p) :
    q ∈ exactly step count places ↔ ∃ p ∈ places, Steps leads count p q := by
  induction count generalizing places with
  | zero =>
    rw [exactly]
    constructor
    · intro hq
      exact ⟨q, hq, .none q⟩
    · rintro ⟨p, hp, hsteps⟩
      cases hsteps
      exact hp
  | succ count ih =>
    have hreached := reaches_of_mem_flatMap hstep hleads hplaces
    have hnext : ∀ p, p ∈ fresh [] (places.flatMap step) ↔ p ∈ places.flatMap step :=
      fun p => mem_fresh_nil hreached
    rw [exactly]
    split
    · next hempty => simp [List.isEmpty_iff.mp hempty]
    · rw [ih fun p hp => hreached p ((hnext p).mp hp)]
      constructor
      · rintro ⟨mid, hmid, hrest⟩
        obtain ⟨p, hp, hfirst⟩ := List.mem_flatMap.mp ((hnext mid).mp hmid)
        exact ⟨p, hp, .cons ((hstep p mid).mp hfirst) hrest⟩
      · rintro ⟨p, hp, hsteps⟩
        cases hsteps with
        | @cons _ _ mid _ hfirst hrest =>
          have hmid := List.mem_flatMap.mpr ⟨p, hp, (hstep p mid).mpr hfirst⟩
          exact ⟨mid, (hnext mid).mpr hmid, hrest⟩

end Search

/-- A position is reached from others in at most so many steps. -/
def Within (leads : Position → Position → Prop) (start : List Position) (count : Nat)
    (q : Position) : Prop :=
  ∃ p ∈ start, ∃ some ≤ count, Steps leads some p q

/-- What a search knows after a number of rounds: all that can be reached in as many steps, where
only the positions of the frontier may lead to others. -/
structure Searched (leads : Position → Position → Prop) (start : List Position) (rounds : Nat)
    (known frontier : List Position) : Prop where
  mem_known : ∀ q, q ∈ known ↔ Within leads start rounds q
  frontier_known : ∀ q ∈ frontier, q ∈ known
  closed : ∀ p ∈ known, p ∉ frontier → ∀ q, leads p q → q ∈ known

namespace Searched

variable {step : Position → List Position} {leads : Position → Position → Prop}
  {start known frontier : List Position} {rounds : Nat}

/-- A search starts where it is. -/
theorem first (leads : Position → Position → Prop) (start : List Position) :
    Searched leads start 0 start start where
  mem_known q := by
    constructor
    · intro hq
      exact ⟨q, hq, 0, Nat.le_refl 0, .none q⟩
    · rintro ⟨p, hp, count, hcount, hsteps⟩
      obtain rfl : count = 0 := by omega
      cases hsteps
      exact hp
  frontier_known _ := id
  closed p hp hnot := absurd hp hnot

/-- Without a frontier nothing else can be reached. -/
theorem mem_of_steps (h : Searched leads start rounds known frontier) (hfrontier : frontier = [])
    {p q : Position} {count : Nat} (hp : p ∈ known) (hsteps : Steps leads count p q) :
    q ∈ known := by
  induction hsteps with
  | none => exact hp
  | @cons count p mid q hfirst _ ih =>
    refine ih (h.closed p hp ?_ mid hfirst)
    rw [hfrontier]
    exact List.not_mem_nil

/-- One round of a search. -/
theorem next (hstep : ∀ p q, q ∈ step p ↔ leads p q) (hleads : ∀ p q, leads p q → p.Reaches q)
    {origin : Position} (hknown : ∀ p ∈ known, origin.Reaches p)
    (h : Searched leads start rounds known frontier) :
    Searched leads start (rounds + 1) (known ++ fresh known (frontier.flatMap step))
      (fresh known (frontier.flatMap step)) := by
  have hreached := reaches_of_mem_flatMap hstep hleads
    fun p hp => hknown p (h.frontier_known p hp)
  have hfresh : ∀ q, q ∈ fresh known (frontier.flatMap step) ↔
      (∃ p ∈ frontier, leads p q) ∧ q ∉ known := by
    intro q
    rw [mem_fresh hknown hreached, List.mem_flatMap]
    simp only [hstep]
  have hleadsTo : ∀ p ∈ known, ∀ q, leads p q →
      q ∈ known ++ fresh known (frontier.flatMap step) := by
    intro p hp q hq
    rw [List.mem_append, hfresh]
    by_cases hold : q ∈ known
    · exact Or.inl hold
    · by_cases hfrontier : p ∈ frontier
      · exact Or.inr ⟨⟨p, hfrontier, hq⟩, hold⟩
      · exact Or.inl (h.closed p hp hfrontier q hq)
  refine ⟨fun q => ?_, fun q hq => List.mem_append_right _ hq, ?_⟩
  · constructor
    · intro hq
      rw [List.mem_append, hfresh] at hq
      rcases hq with hold | ⟨⟨p, hp, hlast⟩, -⟩
      · obtain ⟨first, hfirst, count, hcount, hsteps⟩ := (h.mem_known q).mp hold
        exact ⟨first, hfirst, count, Nat.le_succ_of_le hcount, hsteps⟩
      · obtain ⟨first, hfirst, count, hcount, hsteps⟩ :=
          (h.mem_known p).mp (h.frontier_known p hp)
        exact ⟨first, hfirst, count + 1, Nat.succ_le_succ hcount, hsteps.snoc hlast⟩
    · rintro ⟨first, hfirst, count, hcount, hsteps⟩
      cases count with
      | zero =>
        have hq := (h.mem_known q).mpr ⟨first, hfirst, 0, Nat.zero_le _, hsteps⟩
        exact List.mem_append_left _ hq
      | succ count =>
        obtain ⟨p, hbefore, hlast⟩ := hsteps.exists_last
        have hp := (h.mem_known p).mpr
          ⟨first, hfirst, count, Nat.le_of_succ_le_succ hcount, hbefore⟩
        exact hleadsTo p hp q hlast
  · intro p hp hnot q hq
    rcases List.mem_append.mp hp with hold | hnew
    · exact hleadsTo p hold q hq
    · exact absurd hnew hnot

/-- The positions that a search finds in a number of further rounds. -/
theorem mem_atMost (hstep : ∀ p q, q ∈ step p ↔ leads p q)
    (hleads : ∀ p q, leads p q → p.Reaches q) {origin q : Position} {count : Nat}
    (hknown : ∀ p ∈ known, origin.Reaches p) (h : Searched leads start rounds known frontier) :
    q ∈ atMost step count known frontier ↔ Within leads start (rounds + count) q := by
  induction count generalizing rounds known frontier with
  | zero => exact h.mem_known q
  | succ count ih =>
    rw [atMost]
    split
    · next hempty =>
      rw [h.mem_known]
      constructor
      · rintro ⟨p, hp, some, hsome, hsteps⟩
        exact ⟨p, hp, some, by omega, hsteps⟩
      · rintro ⟨p, hp, some, -, hsteps⟩
        have hstart := (h.mem_known p).mpr ⟨p, hp, 0, Nat.zero_le _, .none p⟩
        have hq := h.mem_of_steps (List.isEmpty_iff.mp hempty) hstart hsteps
        exact (h.mem_known q).mp hq
    · have hreached := reaches_of_mem_flatMap hstep hleads
        fun p hp => hknown p (h.frontier_known p hp)
      have hnext : ∀ p ∈ known ++ fresh known (frontier.flatMap step), origin.Reaches p := by
        intro p hp
        rcases List.mem_append.mp hp with hold | hnew
        · exact hknown p hold
        · exact hreached p ((mem_fresh hknown hreached).mp hnew).1
      rw [ih hnext (h.next hstep hleads hknown)]
      have hrounds : rounds + 1 + count = rounds + (count + 1) := by omega
      rw [hrounds]

end Searched

/-- The matcher computes the positions to which an expression leads. -/
theorem mem_ends_iff {regex : Regex} {p q : Position} : q ∈ regex.ends p ↔ regex.Spans p q := by
  induction regex generalizing p q with
  | empty => exact List.mem_singleton
  | one set =>
    obtain ⟨before, rest⟩ := p
    cases rest with
    | nil =>
      constructor
      · intro h
        cases h
      · rintro ⟨c, -, hpass⟩
        cases hpass
    | cons c rest =>
      simp only [ends, Spans]
      constructor
      · intro h
        split at h
        · next hc =>
          obtain rfl := List.mem_singleton.mp h
          exact ⟨c, hc, .next (.stay _)⟩
        · cases h
      · rintro ⟨d, hd, hpass⟩
        cases hpass with
        | next hstay =>
          cases hstay
          rw [if_pos hd]
          exact List.mem_singleton_self _
  | look assertion =>
    simp only [ends, Spans]
    split
    · next hholds => simp [hholds]
    · next hfails => simp [hfails]
  | cat a b iha ihb =>
    have hreached : ∀ q ∈ (a.ends p).flatMap b.ends, p.Reaches q := by
      intro q hq
      obtain ⟨mid, hmid, hrest⟩ := List.mem_flatMap.mp hq
      exact (iha.mp hmid).reaches.trans (ihb.mp hrest).reaches
    simp only [ends, Spans, mem_fresh_nil hreached, List.mem_flatMap, iha, ihb]
  | alt a b iha ihb =>
    have hreached : ∀ q ∈ a.ends p ++ b.ends p, p.Reaches q := by
      intro q hq
      rcases List.mem_append.mp hq with ha | hb
      · exact (iha.mp ha).reaches
      · exact (ihb.mp hb).reaches
    simp only [ends, Spans, mem_fresh_nil hreached, List.mem_append, iha, ihb]
  | times body least most ih =>
    have hstep : ∀ p q, q ∈ body.ends p ↔ body.Spans p q := fun _ _ => ih
    have hleads : ∀ p q, body.Spans p q → p.Reaches q := fun _ _ => Spans.reaches
    have hself : ∀ mid ∈ [p], p.Reaches mid := by
      simpa using Position.Reaches.refl p
    have hleast : ∀ mid, mid ∈ exactly body.ends least [p] ↔ Steps body.Spans least p mid := by
      intro mid
      rw [mem_exactly hstep hleads hself]
      simp
    have hstart : ∀ mid ∈ exactly body.ends least [p], p.Reaches mid :=
      fun mid hmid => ((hleast mid).mp hmid).reaches hleads
    have hsearch := Searched.first body.Spans (exactly body.ends least [p])
    simp only [ends, Spans]
    rw [hsearch.mem_atMost hstep hleads hstart, Nat.zero_add]
    constructor
    · rintro ⟨mid, hmid, more, hmore, hsteps⟩
      refine ⟨mid, more, fun bound hbound => ?_, (hleast mid).mp hmid, hsteps⟩
      obtain rfl : most = some bound := hbound
      exact Nat.le_trans hmore (Nat.min_le_left _ _)
    · rintro ⟨mid, more, hmore, hmid, hsteps⟩
      obtain ⟨short, hle, hshort, hsteps⟩ := hsteps.exists_short hleads
      have hlength := (hmid.reaches hleads).length_le
      refine ⟨mid, (hleast mid).mpr hmid, short, ?_, hsteps⟩
      cases most with
      | none => simp only; omega
      | some bound =>
        have hbound := hmore bound rfl
        simp only
        omega

/-- An expression matches from a position on if it leads from there or from further on to some
position. -/
theorem matchesFrom_iff {regex : Regex} {before : Option Char} {text : List Char} :
    regex.matchesFrom before text = true ↔
      ∃ p q, Position.Reaches ⟨before, text⟩ p ∧ regex.Spans p q := by
  have hhere : ∀ p, (!(regex.ends p).isEmpty) = true ↔ ∃ q, regex.Spans p q := by
    intro p
    simp [List.eq_nil_iff_forall_not_mem, mem_ends_iff]
  induction text generalizing before with
  | nil =>
    rw [matchesFrom, hhere]
    constructor
    · rintro ⟨q, hq⟩
      exact ⟨_, q, .refl _, hq⟩
    · rintro ⟨p, q, ⟨word, hpass⟩, hq⟩
      cases hpass
      exact ⟨q, hq⟩
  | cons c text ih =>
    rw [matchesFrom, Bool.or_eq_true]
    refine (or_congr (hhere _) ih).trans ?_
    constructor
    · rintro (⟨q, hq⟩ | ⟨p, q, ⟨word, hpass⟩, hq⟩)
      · exact ⟨_, q, .refl _, hq⟩
      · exact ⟨p, q, ⟨c :: word, .next hpass⟩, hq⟩
    · rintro ⟨p, q, ⟨word, hpass⟩, hq⟩
      cases hpass with
      | stay => exact Or.inl ⟨q, hq⟩
      | next hpass => exact Or.inr ⟨p, q, ⟨_, hpass⟩, hq⟩

/-- An expression matches a part of a text if it leads from one of its positions to another. -/
theorem isMatch_iff {regex : Regex} {text : String} :
    regex.isMatch text = true ↔
      ∃ p q, Position.Reaches ⟨none, text.toList⟩ p ∧ regex.Spans p q :=
  matchesFrom_iff

/-! ### Expressions for texts -/

variable {p q : Position}

/-- Expressions one after the other lead through the position behind the first. -/
theorem spans_sequence_cons {head : Regex} {tail : List Regex} :
    (sequence (head :: tail)).Spans p q ↔
      ∃ mid, head.Spans p mid ∧ (sequence tail).Spans mid q := by
  cases tail with
  | nil => simp [sequence, Spans]
  | cons => rfl

/-- Lists of expressions one after the other lead through a position in between. -/
theorem spans_sequence_append {first rest : List Regex} :
    (sequence (first ++ rest)).Spans p q ↔
      ∃ mid, (sequence first).Spans p mid ∧ (sequence rest).Spans mid q := by
  induction first generalizing p with
  | nil => simp [sequence, Spans]
  | cons head first ih =>
    simp only [List.cons_append, spans_sequence_cons, ih]
    constructor
    · rintro ⟨next, hhead, mid, hfirst, hrest⟩
      exact ⟨mid, ⟨next, hhead, hfirst⟩, hrest⟩
    · rintro ⟨mid, ⟨next, hhead, hfirst⟩, hrest⟩
      exact ⟨next, hhead, mid, hfirst, hrest⟩

/-- The expression for a character passes over the character. -/
theorem spans_char {c : Char} : (char c).Spans p q ↔ p.Passes [c] q := by
  simp only [char, Spans, CharSet.contains_single_iff, exists_eq_left]

/-- The expressions for the characters of a text pass over the text. -/
theorem spans_characters {text : List Char} :
    (sequence (text.map char)).Spans p q ↔ p.Passes text q := by
  induction text generalizing p with
  | nil => exact Position.passes_nil.symm
  | cons c text ih =>
    simp only [List.map_cons, spans_sequence_cons, spans_char, ih]
    constructor
    · rintro ⟨mid, hc, htext⟩
      exact hc.append htext
    · intro h
      have hsplit : p.Passes ([c] ++ text) q := h
      exact hsplit.exists_between

/-- Steps over characters of a set pass over a word of such characters. -/
theorem steps_one_iff {set : CharSet} {count : Nat} :
    Steps (one set).Spans count p q ↔
      ∃ word, word.length = count ∧ (∀ c ∈ word, set.contains c = true) ∧ p.Passes word q := by
  induction count generalizing p with
  | zero =>
    constructor
    · rintro (_ | _)
      exact ⟨[], rfl, by simp, .stay _⟩
    · rintro ⟨word, hlength, -, hpass⟩
      obtain rfl := List.eq_nil_of_length_eq_zero hlength
      cases hpass
      exact .none _
  | succ count ih =>
    constructor
    · intro h
      cases h with
      | cons hfirst hrest =>
        obtain ⟨c, hc, hpass⟩ := hfirst
        obtain ⟨word, hlength, hall, hword⟩ := ih.mp hrest
        exact ⟨c :: word, by simp [hlength], List.forall_mem_cons.mpr ⟨hc, hall⟩,
          hpass.append hword⟩
    · rintro ⟨word, hlength, hall, hpass⟩
      obtain ⟨c, word, rfl⟩ := List.exists_cons_of_length_eq_add_one hlength
      obtain ⟨hc, hall⟩ := List.forall_mem_cons.mp hall
      have hsplit : p.Passes ([c] ++ word) q := hpass
      obtain ⟨mid, hfirst, hrest⟩ := hsplit.exists_between
      exact .cons ⟨c, hc, hfirst⟩ (ih.mpr ⟨word, Nat.succ.inj hlength, hall, hrest⟩)

/-- Any number of characters but line ends is passed over. -/
theorem spans_anyRun : anyRun.Spans p q ↔ ∃ word, '\n' ∉ word ∧ p.Passes word q := by
  have hset : ∀ c, (CharSet.complement (.single '\n')).contains c = true ↔ c ≠ '\n' := by
    intro c
    rw [CharSet.contains, Bool.not_eq_true', ← Bool.not_eq_true, CharSet.contains_single_iff]
  constructor
  · rintro ⟨mid, count, -, ⟨⟩, hsteps⟩
    obtain ⟨word, -, hall, hpass⟩ := steps_one_iff.mp hsteps
    exact ⟨word, fun hend => (hset '\n').mp (hall '\n' hend) rfl, hpass⟩
  · rintro ⟨word, hend, hpass⟩
    have hall : ∀ c ∈ word, (CharSet.complement (.single '\n')).contains c = true := by
      intro c hc
      refine (hset c).mpr ?_
      rintro rfl
      exact hend hc
    exact ⟨p, word.length, by simp, .none p, steps_one_iff.mpr ⟨word, rfl, hall, hpass⟩⟩

/-- A character that may be left out is passed over or not. -/
theorem spans_optional {c : Char} :
    (times (char c) 0 (some 1)).Spans p q ↔ ∃ word, (word = [] ∨ word = [c]) ∧ p.Passes word q := by
  constructor
  · rintro ⟨mid, count, hcount, ⟨⟩, hsteps⟩
    have hle : count ≤ 1 := hcount 1 rfl
    obtain ⟨word, hlength, hall, hpass⟩ := steps_one_iff.mp hsteps
    refine ⟨word, ?_, hpass⟩
    match word, hlength, hall with
    | [], _, _ => exact Or.inl rfl
    | [d], _, hall =>
      obtain rfl := CharSet.contains_single_iff.mp (hall d (List.mem_singleton_self d))
      exact Or.inr rfl
    | _ :: _ :: _, hlength, _ =>
      simp only [List.length_cons] at hlength
      omega
  · rintro ⟨word, hword, hpass⟩
    refine ⟨p, word.length, ?_, .none p, steps_one_iff.mpr ⟨word, rfl, ?_, hpass⟩⟩
    · rintro bound ⟨⟩
      rcases hword with rfl | rfl <;> simp
    · rcases hword with rfl | rfl
      · simp
      · simp [CharSet.contains_single_iff]

end Regex

end Conventions
