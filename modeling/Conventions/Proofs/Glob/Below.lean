import Conventions.Glob.Parser
import Conventions.Proofs.Except
import Conventions.Proofs.Glob.Language

/-!
# Everything below what a pattern matches

A pattern with a separator and a double star behind it matches everything below the paths that
the pattern itself matches, and everything below those that it matches already. The reader
goes through the longer text just as through the shorter one, but for a double star at the
end of the shorter one, which then matches what is below as it is.
-/

namespace Conventions.Glob

/-- The pattern goes on below whatever it matches: it is a lone deep star, or ends in one. -/
def IsDeep (tokens : Pattern) : Prop :=
  tokens = [.deepStart] ∨ ∃ front, tokens = front ++ [.deepEnd]

/-! ### Reading -/

/-- The end of a pattern for what is below. -/
def belowEnding : List Char := ['/', '*', '*']

namespace ParseState

/-- Outside of classes, escapes and groups, a deep start that was read last is the only token,
and its separator is the last character. -/
def Grounded (state : ParseState) : Prop :=
  state.mode = .plain → state.groups = [] → ∀ rest, state.tokens = .deepStart :: rest →
    rest = [] ∧ state.previous = some '/'

/-- A state is grounded if it has not just read a deep start. -/
theorem grounded_of_not_deepStart {state : ParseState}
    (h : state.mode ≠ .plain ∨ ∀ rest, state.tokens ≠ .deepStart :: rest) : state.Grounded := by
  intro hmode _ rest htokens
  rcases h with h | h
  · exact absurd hmode h
  · exact absurd htokens (h rest)

/-- Behind any other token than a deep start, a state is grounded. -/
theorem grounded_push {token : Token} (h : token ≠ .deepStart) (state : ParseState) (c : Char) :
    (state.push token c).Grounded :=
  grounded_of_not_deepStart (Or.inr fun _ htokens => h (List.cons.inj htokens).1)

/-- A deep star opens and closes no group. -/
theorem groups_pushDeep (state : ParseState) (token : Token) (last : Char) :
    (state.pushDeep token last).groups = state.groups := by
  unfold ParseState.pushDeep
  split <;> rfl

/-- The last character of a deep star is the last one that was read. -/
theorem previous_pushDeep (state : ParseState) (token : Token) (last : Char) :
    (state.pushDeep token last).previous = some last := by
  unfold ParseState.pushDeep
  split <;> rfl

/-- A deep star in front of a separator leaves a state grounded. -/
theorem Grounded.pushDeep {state : ParseState} (h : state.Grounded) (hmode : state.mode = .plain)
    {token : Token} (htoken : token ≠ .deepStart) : (state.pushDeep token '/').Grounded := by
  intro _ hgroups rest htokens
  rw [groups_pushDeep] at hgroups
  refine ⟨?_, previous_pushDeep _ _ _⟩
  unfold ParseState.pushDeep at htokens
  split at htokens
  · exact absurd (List.cons.inj htokens).1 htoken
  · next other hother =>
    obtain rfl : other = rest := (List.cons.inj htokens).2
    exact (h hmode hgroups other hother).1
  · cases htokens
  · exact absurd (List.cons.inj htokens).1 htoken

/-- A character of a class leaves a state grounded. -/
theorem grounded_of_readInClass {state next : ParseState} {soFar : ClassSoFar} {c : Char}
    (h : state.readInClass soFar c = .ok next) : next.Grounded ∧ next.previous = some c := by
  have hnext : next.previous = some c ∧
      (next.mode ≠ .plain ∨ ∀ rest, next.tokens ≠ .deepStart :: rest) := by
    simp only [readInClass, push, bind, Except.bind] at h
    grind
  exact ⟨grounded_of_not_deepStart hnext.2, hnext.1⟩

/-- A character outside of classes leaves a state grounded. -/
theorem grounded_of_readPlain {state next : ParseState} {c : Char}
    (h : state.readPlain c = .ok next) : next.Grounded ∧ next.previous = some c := by
  have hnext : next.previous = some c ∧
      (next.mode ≠ .plain ∨ ∀ rest, next.tokens ≠ .deepStart :: rest) := by
    simp only [readPlain, push] at h
    grind
  exact ⟨grounded_of_not_deepStart hnext.2, hnext.1⟩

/-- Within a class, characters go to the class. -/
theorem run_inClass {state : ParseState} {soFar : ClassSoFar} (h : state.mode = .inClass soFar)
    (c : Char) (rest : List Char) :
    state.run (c :: rest) = state.readInClass soFar c >>= fun next => next.run rest := by
  rw [run.eq_def]
  simp only [h]

/-- Behind a backslash, a character stands for itself. -/
theorem run_escape {state : ParseState} (h : state.mode = .escape) (c : Char)
    (rest : List Char) : state.run (c :: rest) = (state.push (.literal c) c).run rest := by
  rw [run.eq_def]
  simp only [h]

/-- Elsewhere a character that is no star is read by itself. -/
theorem run_plain {state : ParseState} (h : state.mode = .plain) {c : Char} (hc : c ≠ '*')
    (rest : List Char) :
    state.run (c :: rest) = state.readPlain c >>= fun next => next.run rest := by
  rw [run.eq_def]
  simp only [h, if_neg hc]

/-- How the reader goes on from a state that gives tokens for some characters, if the ending
follows them: it adds a deep end, or finds that the tokens are deep already. The tokens are
then a lone deep start only if the last character is a separator. -/
def EndsBelow (state : ParseState) (chars : List Char) (tokens : List Token) : Prop :=
  (state.run (chars ++ belowEnding) = .ok (tokens ++ [.deepEnd]) ∧
      (tokens = [.deepStart] → chars.getLast?.or state.previous = some '/')) ∨
    (state.run (chars ++ belowEnding) = .ok tokens ∧ IsDeep tokens)

/-- The reader may take a step first, whatever follows. -/
theorem EndsBelow.of_step {state next : ParseState} {chars rest : List Char}
    {tokens : List Token} (h : next.EndsBelow rest tokens)
    (hrun : state.run (chars ++ belowEnding) = next.run (rest ++ belowEnding))
    (hlast : rest.getLast?.or next.previous = chars.getLast?.or state.previous) :
    state.EndsBelow chars tokens := by
  unfold EndsBelow at h ⊢
  rwa [hrun, ← hlast]

/-- At the end of the characters, the ending adds a deep end. -/
theorem endsBelow_nil {state : ParseState} (hgrounded : state.Grounded) {tokens : List Token}
    (h : state.run [] = .ok tokens) : state.EndsBelow [] tokens := by
  obtain ⟨stack, groups, mode, previous⟩ := state
  unfold run at h
  cases mode with
  | inClass soFar => cases h
  | escape => cases h
  | plain =>
    cases groups with
    | cons group groups => cases h
    | nil =>
      cases h
      refine Or.inl ⟨?_, fun hlone => ?_⟩
      · have hrun : run ⟨stack, [], .plain, previous⟩ belowEnding =
            .ok (.deepEnd :: stack).reverse := rfl
        rw [List.nil_append, hrun, List.reverse_cons]
      · have hstack : stack = [.deepStart] := by simpa using congrArg List.reverse hlone
        exact (hgrounded rfl rfl [] hstack).2

/-- At a double star that is a pattern of its own, the ending changes nothing. -/
theorem endsBelow_deepStart {state : ParseState} (hmode : state.mode = .plain)
    (hempty : state.tokens = []) {tokens : List Token}
    (h : (state.push .deepStart '*').run [] = .ok tokens) : state.EndsBelow ['*', '*'] tokens := by
  obtain ⟨stack, groups, mode, previous⟩ := state
  obtain rfl : mode = .plain := hmode
  obtain rfl : stack = [] := hempty
  cases groups with
  | cons group groups => cases h
  | nil =>
    cases h
    exact Or.inr ⟨rfl, Or.inl rfl⟩

/-- At a deep end, the ending changes nothing. -/
theorem endsBelow_deepEnd {state : ParseState} (hgrounded : state.Grounded)
    (hmode : state.mode = .plain) (hne : state.tokens ≠ []) (hdeep : state.deepAllowed = true)
    {tokens : List Token} (h : (state.pushDeep .deepEnd '*').run [] = .ok tokens) :
    state.EndsBelow ['*', '*'] tokens := by
  obtain ⟨stack, groups, mode, previous⟩ := state
  obtain rfl : mode = .plain := hmode
  have hbelow : run ⟨stack, groups, .plain, previous⟩ (['*', '*'] ++ belowEnding) =
      run (pushDeep ⟨stack, groups, .plain, previous⟩ .deepMiddle '/') ['*', '*'] := by
    have hempty : stack.isEmpty = false := by simpa using hne
    simp [belowEnding, run, hempty, hdeep]
  -- What is read last is a deep star: at a start it stays, elsewhere it is one at the end.
  have hsame : run (pushDeep ⟨stack, groups, .plain, previous⟩ .deepMiddle '/') ['*', '*'] =
      .ok tokens ∧ IsDeep tokens := by
    cases stack with
    | nil => exact absurd rfl hne
    | cons top rest =>
      cases groups with
      | cons group groups => cases top <;> cases h
      | nil =>
        cases top with
        | deepStart =>
          obtain ⟨rfl, -⟩ := hgrounded rfl rfl rest rfl
          cases h
          exact ⟨rfl, Or.inl rfl⟩
        | _ =>
          cases h
          refine ⟨rfl, Or.inr ⟨rest.reverse, ?_⟩⟩
          simp [pushDeep]
  exact Or.inr ⟨hbelow.trans hsame.1, hsame.2⟩

/-- From a grounded state, a text with the ending behind it is read as one that goes on below
what the text matches. -/
theorem endsBelow_of_run {state : ParseState} {chars : List Char} {tokens : List Token}
    (hgrounded : state.Grounded) (h : state.run chars = .ok tokens) :
    state.EndsBelow chars tokens := by
  fun_induction run state chars with
  | case1 | case2 | case4 => cases h
  | case3 state hmode hgroups =>
    refine endsBelow_nil hgrounded ?_
    simpa [run, hmode, hgroups] using h
  | case5 state c rest soFar hmode ih =>
    obtain ⟨next, hnext, h⟩ := bind_eq_ok_iff.mp h
    obtain ⟨hground, hprevious⟩ := grounded_of_readInClass hnext
    refine (ih next hground h).of_step ?_ (by simp [List.getLast?_cons, hprevious])
    rw [List.cons_append, run_inClass hmode, hnext]
    rfl
  | case6 state c rest hmode ih =>
    refine (ih (grounded_push (by simp) _ _) h).of_step ?_ (by simp [List.getLast?_cons, push])
    rw [List.cons_append, run_escape hmode]
  | case7 state hmode ih =>
    refine (ih (grounded_push (by simp) _ _) h).of_step ?_ (by simp [push])
    rw [List.singleton_append, belowEnding, run, hmode]
    simp
  | case8 state hmode hempty ih =>
    exact endsBelow_deepStart hmode (by simpa using hempty) h
  | case9 state hmode hempty hdeep ih =>
    exact endsBelow_deepEnd hgrounded hmode (by simpa using hempty) hdeep h
  | case10 state hmode hempty hdeep ih =>
    refine (ih (grounded_push (by simp) _ _) h).of_step ?_ (by simp [pushStars, push])
    rw [run.eq_def]
    simp [hmode, hempty, hdeep, belowEnding]
  | case11 state hmode rest hempty ih =>
    have htokens : state.tokens = [] := by simpa using hempty
    refine (ih ?_ h).of_step ?_ (by simp [List.getLast?_cons, push])
    · intro _ _ other hother
      rw [push, htokens] at hother
      exact ⟨(List.cons.inj hother).2.symm, rfl⟩
    · rw [run.eq_def]
      simp [hmode, hempty]
  | case12 state hmode e rest hempty he ih =>
    refine (ih (grounded_push (by simp) _ _) h).of_step ?_
      (by simp [List.getLast?_cons, pushStars, push])
    rw [run.eq_def]
    simp [hmode, hempty, he]
  | case13 state hmode e rest hempty hdeep ih =>
    refine (ih (grounded_push (by simp) _ _) h).of_step ?_
      (by simp [List.getLast?_cons, pushStars, push])
    rw [run.eq_def]
    simp [hmode, hempty, hdeep]
  | case14 state hmode e rest hempty hdeep hgroup ih =>
    -- A group is open, so that this double star cannot be the last token of the pattern.
    have hnext : (state.pushDeep .deepEnd '*').Grounded := by
      intro _ hgroups
      simp [groups_pushDeep] at hgroups hgroup
      exact absurd hgroups hgroup.2
    refine (ih hnext h).of_step ?_ (by simp [List.getLast?_cons, previous_pushDeep])
    rw [run.eq_def]
    simp [hmode, hempty, hdeep, hgroup]
  | case15 state hmode rest hempty hdeep hgroup ih =>
    refine (ih (hgrounded.pushDeep hmode (by simp)) h).of_step ?_
      (by simp [List.getLast?_cons, previous_pushDeep])
    rw [run.eq_def]
    simp [hmode, hempty, hdeep]
  | case16 state hmode e rest hempty hdeep hgroup he ih =>
    refine (ih (grounded_push (by simp) _ _) h).of_step ?_
      (by simp [List.getLast?_cons, pushStars, push])
    rw [run.eq_def]
    simp only [hmode, List.cons_append, hempty, hdeep, if_neg hgroup, he, if_true, if_false,
      Bool.false_eq_true]
  | case17 state hmode e rest he ih =>
    refine (ih (grounded_push (by simp) _ _) h).of_step ?_ (by simp [List.getLast?_cons, push])
    rw [run.eq_def]
    simp [hmode, he]
  | case18 state c rest hmode hc ih =>
    obtain ⟨next, hnext, h⟩ := bind_eq_ok_iff.mp h
    obtain ⟨hground, hprevious⟩ := grounded_of_readPlain hnext
    refine (ih next hground h).of_step ?_ (by simp [List.getLast?_cons, hprevious])
    rw [List.cons_append, run_plain hmode hc, hnext]
    rfl

end ParseState

/-- With the ending for what is below, the text of a pattern is that of a pattern that is deep:
it has one more deep end, or it is the same and was deep before. -/
theorem parse_below {pattern : String} {tokens : Pattern} (h : parse pattern = .ok tokens) :
    (parse (pattern ++ "/**") = .ok (tokens ++ [.deepEnd]) ∧
        (tokens = [.deepStart] → pattern.toList.getLast? = some '/')) ∨
      (parse (pattern ++ "/**") = .ok tokens ∧ IsDeep tokens) := by
  have hrun : ParseState.run ⟨[], [], .plain, none⟩ pattern.toList = .ok tokens := by
    unfold parse at h
    split at h
    · next hrun =>
      cases h
      exact hrun
    · cases h
  have hgrounded : (⟨[], [], .plain, none⟩ : ParseState).Grounded := fun _ _ _ htokens => by
    cases htokens
  have htext : (pattern ++ "/**").toList = pattern.toList ++ belowEnding := by simp [belowEnding]
  have hends := ParseState.endsBelow_of_run hgrounded hrun
  unfold ParseState.EndsBelow at hends
  rw [← htext, Option.or_none] at hends
  unfold parse
  rcases hends with ⟨hbelow, hlone⟩ | ⟨hbelow, hdeep⟩
  · rw [hbelow]
    exact Or.inl ⟨rfl, hlone⟩
  · rw [hbelow]
    exact Or.inr ⟨rfl, hdeep⟩

/-! ### Matching -/

/-- A deep pattern matches everything below what it matches. -/
theorem IsDeep.isMatch_below {tokens : Pattern} (h : IsDeep tokens) {above : String}
    (hmatch : isMatch tokens above = true) (below : String) :
    isMatch tokens (above ++ "/" ++ below) = true := by
  rw [isMatch_iff] at hmatch ⊢
  rcases h with rfl | ⟨front, rfl⟩
  · exact Or.inl rfl
  · rcases hmatch with hlone | hmatch
    · cases front <;> simp at hlone
    · obtain ⟨first, rest, heaten, hfirst, hrest⟩ := matches_append.mp hmatch
      obtain ⟨inner, rfl⟩ := matches_deepEnd.mp hrest
      refine Or.inr (matches_append.mpr ⟨first, _, ?_, hfirst,
        matches_deepEnd.mpr ⟨inner ++ separator :: bytesOf below, rfl⟩⟩)
      rw [bytesOf_below, heaten]
      simp

/-- A pattern with a deep end behind it matches everything below what the pattern matches,
unless this is a lone deep start. -/
theorem isMatch_deepEnd {tokens : Pattern} (h : tokens ≠ [.deepStart]) {above : String}
    (hmatch : isMatch tokens above = true) (below : String) :
    isMatch (tokens ++ [.deepEnd]) (above ++ "/" ++ below) = true := by
  rw [isMatch_iff] at hmatch ⊢
  rcases hmatch with hlone | hmatch
  · exact absurd hlone h
  · refine Or.inr (matches_append.mpr ⟨bytesOf above, _, ?_, hmatch,
      matches_deepEnd.mpr ⟨bytesOf below, rfl⟩⟩)
    rw [bytesOf_below]

/-- One of the patterns that a set holds for one text, that for itself and that for what is
below, matches all that is below what one of them matches. -/
theorem anyMatch_below {pattern : String} (hlast : pattern.toList.getLast? ≠ some '/')
    {self inside : Pattern} (hself : parse pattern = .ok self)
    (hinside : parse (pattern ++ "/**") = .ok inside) {above : String}
    (h : anyMatch [self, inside] above = true) (below : String) :
    anyMatch [self, inside] (above ++ "/" ++ below) = true := by
  have hmatch : isMatch self above = true ∨ isMatch inside above = true := by
    simpa [anyMatch_iff] using h
  have hfound : isMatch inside (above ++ "/" ++ below) = true := by
    rcases parse_below hself with ⟨hparse, hlone⟩ | ⟨hparse, hdeep⟩
    · cases hinside.symm.trans hparse
      have hne : self ≠ [.deepStart] := fun heq => hlast (hlone heq)
      have hdeep : IsDeep (self ++ [.deepEnd]) := Or.inr ⟨self, rfl⟩
      rcases hmatch with hmatch | hmatch
      · exact isMatch_deepEnd hne hmatch below
      · exact hdeep.isMatch_below hmatch below
    · cases hinside.symm.trans hparse
      exact hdeep.isMatch_below (or_self_iff.mp hmatch) below
  exact anyMatch_iff.mpr ⟨inside, by simp, hfound⟩

end Conventions.Glob
