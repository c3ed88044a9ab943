import Conventions.Glob.Basic
import Mathlib.Tactic.Common

/-!
# The language of a pattern

No part of a pattern looks at what follows the bytes that it takes. So each part stands for a
set of byte strings, and a pattern for the strings that are put together from one string of
each of its parts. The rests that the matcher computes are what is left behind such a string.
-/

namespace Conventions.Glob

/-- Whole components with the separators behind them, or nothing. -/
def IsDirectories (eaten : List UInt8) : Prop := eaten = [] ∨ ∃ names, eaten = names ++ [separator]

mutual

/-- The strings that a part of a pattern stands for. -/
def Token.Matches : Token → List UInt8 → Prop
  | .literal c, eaten => eaten = charBytes c
  | .any, eaten => ∃ b, b ≠ separator ∧ eaten = [b]
  | .run, eaten => separator ∉ eaten
  | .deepStart, eaten => IsDirectories eaten
  | .deepEnd, eaten => ∃ below, eaten = separator :: below
  | .deepMiddle, eaten => ∃ between, eaten = separator :: between ∧ IsDirectories between
  | .oneOf negated ranges, eaten =>
    ∃ b, (ranges.any fun range => rangeContains range b) ≠ negated ∧ eaten = [b]
  | .alternatives branches, eaten =>
    if areVoid branches then eaten = [] else ChoiceMatches branches eaten

/-- The strings that a pattern stands for. -/
def Matches : List Token → List UInt8 → Prop
  | [], eaten => eaten = []
  | token :: pattern, eaten =>
    ∃ first rest, eaten = first ++ rest ∧ token.Matches first ∧ Matches pattern rest

/-- The strings that one of several patterns stands for, those left out that are void. -/
def ChoiceMatches : List (List Token) → List UInt8 → Prop
  | [], _ => False
  | branch :: more, eaten =>
    (isVoid branch = false ∧ Matches branch eaten) ∨ ChoiceMatches more eaten

end

/-! ### Rests of a text -/

/-- A rest is left behind a start. -/
theorem afterStart?_eq_some_iff {start text rest : List UInt8} :
    afterStart? start text = some rest ↔ text = start ++ rest := by
  induction start generalizing text with
  | nil => simp [afterStart?, eq_comm]
  | cons a start ih =>
    cases text with
    | nil => simp [afterStart?]
    | cons b text =>
      by_cases heq : a = b
      · simp [afterStart?, heq, ih]
      · simp [afterStart?, heq, Ne.symm heq]

/-- The rests within a component are left behind bytes that are no separators. -/
theorem mem_withinComponent {text rest : List UInt8} :
    rest ∈ withinComponent text ↔ ∃ eaten, text = eaten ++ rest ∧ separator ∉ eaten := by
  induction text with
  | nil => simp [withinComponent]
  | cons b text ih =>
    simp only [withinComponent, List.mem_cons]
    constructor
    · rintro (rfl | h)
      · exact ⟨[], rfl, by simp⟩
      · split at h
        · cases h
        · next hb =>
          obtain ⟨eaten, rfl, heaten⟩ := ih.mp h
          exact ⟨b :: eaten, rfl, by simp [Ne.symm hb, heaten]⟩
    · rintro ⟨eaten, htext, heaten⟩
      cases eaten with
      | nil => exact Or.inl htext.symm
      | cons first eaten =>
        obtain ⟨rfl, rfl⟩ := List.cons.inj htext
        simp only [List.mem_cons, not_or] at heaten
        rw [if_neg (Ne.symm heaten.1)]
        exact Or.inr (ih.mpr ⟨eaten, rfl, heaten.2⟩)

/-- All rests of a text are its ends. -/
theorem mem_suffixes {text rest : List UInt8} : rest ∈ suffixes text ↔ rest <:+ text := by
  induction text with
  | nil => simp [suffixes]
  | cons b text ih => simp [suffixes, List.suffix_cons_iff, ih]

/-- The rests behind separators are left behind whole components. -/
theorem mem_afterSeparators {text rest : List UInt8} :
    rest ∈ afterSeparators text ↔ ∃ names, text = names ++ separator :: rest := by
  induction text with
  | nil => simp [afterSeparators]
  | cons b text ih =>
    have hmem : rest ∈ afterSeparators (b :: text) ↔
        (b = separator ∧ rest = text) ∨ rest ∈ afterSeparators text := by
      by_cases hb : b = separator
      · simp [afterSeparators, hb]
      · simp [afterSeparators, hb]
    rw [hmem, ih]
    constructor
    · rintro (⟨rfl, rfl⟩ | ⟨names, rfl⟩)
      · exact ⟨[], rfl⟩
      · exact ⟨b :: names, rfl⟩
    · rintro ⟨names, htext⟩
      cases names with
      | nil =>
        obtain ⟨rfl, rfl⟩ := List.cons.inj htext
        exact Or.inl ⟨rfl, rfl⟩
      | cons first names =>
        obtain ⟨rfl, rfl⟩ := List.cons.inj htext
        exact Or.inr ⟨names, rfl⟩

/-- The rests behind directories, if there are any. -/
theorem mem_cons_afterSeparators {text rest : List UInt8} :
    rest ∈ text :: afterSeparators text ↔ ∃ eaten, text = eaten ++ rest ∧ IsDirectories eaten := by
  rw [List.mem_cons, mem_afterSeparators]
  constructor
  · rintro (rfl | ⟨names, rfl⟩)
    · exact ⟨[], rfl, Or.inl rfl⟩
    · exact ⟨names ++ [separator], by simp, Or.inr ⟨names, rfl⟩⟩
  · rintro ⟨eaten, rfl, rfl | ⟨names, rfl⟩⟩
    · exact Or.inl rfl
    · exact Or.inr ⟨names, by simp⟩

/-! ### Several rests -/

/-- Two lists of rests of one text are merged without losing any. Rests of one length are the
same. -/
theorem mem_mergeRests (text : List UInt8) {rest : List UInt8} {as bs : List (List UInt8)}
    (has : ∀ a ∈ as, a <:+ text) (hbs : ∀ b ∈ bs, b <:+ text) :
    rest ∈ mergeRests as bs ↔ rest ∈ as ∨ rest ∈ bs := by
  fun_induction mergeRests as bs with
  | case1 others => simp
  | case2 rests => simp
  | case3 a as b bs hlonger ih =>
    rw [List.mem_cons, ih (fun x hx => has x (List.mem_cons_of_mem _ hx)) hbs,
      List.mem_cons (b := a), or_assoc]
  | case4 a as b bs hlonger hshorter ih =>
    rw [List.mem_cons, ih has fun x hx => hbs x (List.mem_cons_of_mem _ hx), List.mem_cons,
      List.mem_cons]
    tauto
  | case5 a as b bs hlonger hshorter ih =>
    have hlength : a.length = b.length := by omega
    have hab : a <:+ b := List.suffix_of_suffix_length_le (has a (by simp)) (hbs b (by simp))
      (by omega)
    obtain rfl : a = b := hab.eq_of_length hlength
    rw [List.mem_cons, ih (fun x hx => has x (List.mem_cons_of_mem _ hx))
      fun x hx => hbs x (List.mem_cons_of_mem _ hx), List.mem_cons, List.mem_cons]
    tauto

/-- What a step leaves of several rests of one text is what it leaves of each of them. -/
theorem mem_foldr_mergeRests {step : List UInt8 → List (List UInt8)}
    (hstep : ∀ text, ∀ rest ∈ step text, rest <:+ text) {text rest : List UInt8}
    {texts : List (List UInt8)} (h : ∀ other ∈ texts, other <:+ text) :
    rest ∈ texts.foldr (fun other found => mergeRests (step other) found) [] ↔
      ∃ other ∈ texts, rest ∈ step other := by
  induction texts generalizing rest with
  | nil => simp
  | cons first texts ih =>
    have hothers : ∀ other ∈ texts, other <:+ text := fun other hother =>
      h other (List.mem_cons_of_mem _ hother)
    rw [List.foldr_cons, mem_mergeRests text, ih hothers]
    · simp
    · exact fun x hx => (hstep first x hx).trans (h first (by simp))
    · intro x hx
      obtain ⟨other, hother, hx⟩ := (ih hothers).mp hx
      exact (hstep other x hx).trans (hothers other hother)

/-! ### Rests and strings -/

mutual

/-- A part leaves the rests behind the strings that it stands for. -/
theorem Token.mem_rests_iff : ∀ (token : Token) {text rest : List UInt8},
    rest ∈ token.rests text ↔ ∃ eaten, text = eaten ++ rest ∧ token.Matches eaten
  | .literal c, text, rest => by
    simp [Token.rests, Token.Matches, afterStart?_eq_some_iff]
  | .any, text, rest => by
    cases text with
    | nil => simp [Token.rests, Token.Matches]
    | cons b text =>
      simp only [Token.rests, Token.Matches]
      constructor
      · intro h
        split at h
        · cases h
        · next hb =>
          rw [List.mem_singleton.mp h]
          exact ⟨[b], rfl, b, hb, rfl⟩
      · rintro ⟨eaten, htext, first, hfirst, rfl⟩
        obtain ⟨rfl, rfl⟩ := List.cons.inj htext
        simp [hfirst]
  | .run, text, rest => mem_withinComponent
  | .deepStart, text, rest => mem_cons_afterSeparators
  | .deepEnd, text, rest => by
    cases text with
    | nil => simp [Token.rests, Token.Matches]
    | cons b text =>
      by_cases hb : b = separator
      · subst hb
        simp only [Token.rests, if_true, mem_suffixes, Token.Matches]
        constructor
        · rintro ⟨below, rfl⟩
          exact ⟨separator :: below, rfl, below, rfl⟩
        · rintro ⟨eaten, htext, below, rfl⟩
          obtain ⟨-, rfl⟩ := List.cons.inj htext
          exact ⟨below, rfl⟩
      · simp [Token.rests, Token.Matches, hb]
  | .deepMiddle, text, rest => by
    cases text with
    | nil => simp [Token.rests, Token.Matches]
    | cons b text =>
      by_cases hb : b = separator
      · subst hb
        simp only [Token.rests, if_true, mem_cons_afterSeparators, Token.Matches]
        constructor
        · rintro ⟨eaten, rfl, heaten⟩
          exact ⟨separator :: eaten, rfl, eaten, rfl, heaten⟩
        · rintro ⟨eaten, htext, between, rfl, hbetween⟩
          obtain ⟨-, rfl⟩ := List.cons.inj htext
          exact ⟨between, rfl, hbetween⟩
      · simp [Token.rests, Token.Matches, hb]
  | .oneOf negated ranges, text, rest => by
    cases text with
    | nil => simp [Token.rests, Token.Matches]
    | cons b text =>
      simp only [Token.rests, Token.Matches]
      constructor
      · intro h
        split at h
        · next hb =>
          rw [List.mem_singleton.mp h]
          exact ⟨[b], rfl, b, by simpa using hb, rfl⟩
        · cases h
      · rintro ⟨eaten, htext, first, hfirst, rfl⟩
        obtain ⟨rfl, rfl⟩ := List.cons.inj htext
        rw [if_pos (by simpa using hfirst)]
        exact List.mem_singleton_self _
  | .alternatives branches, text, rest => by
    by_cases hvoid : areVoid branches = true
    · simp [Token.rests, Token.Matches, hvoid, eq_comm]
    · simp only [Token.rests, Token.Matches, hvoid]
      exact mem_choiceRests_iff branches

/-- A pattern leaves the rests behind the strings that it stands for, of each of several rests
of one text. -/
theorem mem_rests_iff : ∀ (pattern : List Token) (text : List UInt8) {rest : List UInt8}
    {texts : List (List UInt8)}, (∀ other ∈ texts, other <:+ text) →
    (rest ∈ rests pattern texts ↔
      ∃ other ∈ texts, ∃ eaten, other = eaten ++ rest ∧ Matches pattern eaten)
  | [], _, rest, texts, _ => by
    simp [rests, Matches]
  | token :: pattern, text, rest, texts, h => by
    have hstep : ∀ other, ∀ left ∈ token.rests other, left <:+ other := by
      intro other left hleft
      obtain ⟨eaten, rfl, -⟩ := (Token.mem_rests_iff token).mp hleft
      exact List.suffix_append _ _
    have hends : ∀ left ∈ texts.foldr (fun other found => mergeRests (token.rests other) found) [],
        left <:+ text := by
      intro left hleft
      obtain ⟨other, hother, hleft⟩ := (mem_foldr_mergeRests hstep h).mp hleft
      exact (hstep other left hleft).trans (h other hother)
    rw [rests, mem_rests_iff pattern text hends]
    simp only [mem_foldr_mergeRests hstep h, Token.mem_rests_iff token, Matches]
    constructor
    · rintro ⟨left, ⟨other, hother, first, rfl, hfirst⟩, eaten, rfl, heaten⟩
      exact ⟨_, hother, first ++ eaten, by simp, first, eaten, rfl, hfirst, heaten⟩
    · rintro ⟨other, hother, eaten, rfl, first, more, rfl, hfirst, hmore⟩
      exact ⟨more ++ rest, ⟨_, hother, first, by simp, hfirst⟩, more, rfl, hmore⟩

/-- A choice leaves the rests behind the strings that its branches stand for. -/
theorem mem_choiceRests_iff : ∀ (branches : List (List Token)) {text rest : List UInt8},
    rest ∈ choiceRests branches text ↔
      ∃ eaten, text = eaten ++ rest ∧ ChoiceMatches branches eaten
  | [], text, rest => by
    simp [choiceRests, ChoiceMatches]
  | branch :: more, text, rest => by
    have hbranch : ∀ {left}, left ∈ (if isVoid branch then [] else rests branch [text]) ↔
        ∃ eaten, text = eaten ++ left ∧ isVoid branch = false ∧ Matches branch eaten := by
      intro left
      by_cases hvoid : isVoid branch = true
      · simp [hvoid]
      · have hsolid : isVoid branch = false := by simpa using hvoid
        rw [if_neg hvoid, mem_rests_iff branch text (by simp)]
        simp only [List.mem_singleton, exists_eq_left, hsolid, true_and]
    rw [choiceRests, mem_mergeRests text, hbranch, mem_choiceRests_iff more]
    · simp only [ChoiceMatches, and_or_left, exists_or]
    · intro left hleft
      obtain ⟨eaten, rfl, -⟩ := hbranch.mp hleft
      exact List.suffix_append _ _
    · intro left hleft
      obtain ⟨eaten, rfl, -⟩ := (mem_choiceRests_iff more).mp hleft
      exact List.suffix_append _ _

end

/-! ### Matching -/

/-- The bytes of a text. -/
def bytesOf (path : String) : List UInt8 := path.toUTF8.toList

/-- The bytes of an array are those of its list. -/
theorem toList_loop_eq (bytes : ByteArray) (position : Nat) (seen : List UInt8) :
    ByteArray.toList.loop bytes position seen =
      seen.reverse ++ bytes.data.toList.drop position := by
  fun_induction ByteArray.toList.loop bytes position seen with
  | case1 position seen hlt ih =>
    have hposition : position < bytes.data.toList.length := by simpa using hlt
    have hget : bytes.get! position = bytes.data.toList[position] := by
      simp only [ByteArray.get!, Array.getElem_toList]
      exact getElem!_pos bytes.data position (by simpa using hlt)
    rw [ih, List.drop_eq_getElem_cons hposition, hget]
    simp
  | case2 position seen hge =>
    have hlength : bytes.data.toList.length ≤ position := by simpa using hge
    simp [List.drop_eq_nil_of_le hlength]

/-- The bytes of two texts behind each other are those of both. -/
theorem bytesOf_append (a b : String) : bytesOf (a ++ b) = bytesOf a ++ bytesOf b := by
  have hdata : ∀ bytes : ByteArray, bytes.toList = bytes.data.toList := fun bytes => by
    rw [ByteArray.toList, toList_loop_eq]
    simp
  simp [bytesOf, hdata, String.toByteArray_append]

/-- The bytes of a path below another one. -/
theorem bytesOf_below (above below : String) :
    bytesOf (above ++ "/" ++ below) = bytesOf above ++ separator :: bytesOf below := by
  have hseparator : bytesOf "/" = [separator] := by decide +kernel
  rw [bytesOf_append, bytesOf_append, hseparator, List.append_assoc, List.singleton_append]

/-- A pattern matches the paths whose bytes it stands for, and a lone double star every path. -/
theorem isMatch_iff {pattern : Pattern} {path : String} :
    isMatch pattern path = true ↔ pattern = [.deepStart] ∨ Matches pattern (bytesOf path) := by
  have hrests : (rests pattern [bytesOf path]).any (·.isEmpty) = true ↔
      Matches pattern (bytesOf path) := by
    simp only [List.any_eq_true, List.isEmpty_iff, exists_eq_right,
      mem_rests_iff pattern (bytesOf path) (List.forall_mem_singleton.mpr (List.suffix_refl _))]
    simp
  unfold isMatch
  split
  · simp
  · next hother =>
    rw [← hrests]
    constructor
    · exact Or.inr
    · rintro (hdeep | h)
      · exact absurd hdeep hother
      · exact h

/-- The strings of two patterns behind each other are put together from strings of both. -/
theorem matches_append {pattern more : List Token} {eaten : List UInt8} :
    Matches (pattern ++ more) eaten ↔
      ∃ first rest, eaten = first ++ rest ∧ Matches pattern first ∧ Matches more rest := by
  induction pattern generalizing eaten with
  | nil => simp [Matches]
  | cons token pattern ih =>
    simp only [List.cons_append, Matches, ih]
    constructor
    · rintro ⟨first, _, rfl, hfirst, second, rest, rfl, hsecond, hrest⟩
      exact ⟨first ++ second, rest, by simp, ⟨first, second, rfl, hfirst, hsecond⟩, hrest⟩
    · rintro ⟨_, rest, rfl, ⟨first, second, rfl, hfirst, hsecond⟩, hrest⟩
      exact ⟨first, second ++ rest, by simp, hfirst, second, rest, rfl, hsecond, hrest⟩

/-- A deep end stands for a separator and whatever is below. -/
theorem matches_deepEnd {eaten : List UInt8} :
    Matches [.deepEnd] eaten ↔ ∃ below, eaten = separator :: below := by
  simp [Matches, Token.Matches]

/-! ### Several patterns -/

/-- Several patterns match what one of them matches. -/
theorem anyMatch_iff {patterns : List Pattern} {path : String} :
    anyMatch patterns path = true ↔ ∃ pattern ∈ patterns, isMatch pattern path = true :=
  List.any_eq_true

/-- Several patterns do not match what none of them matches. -/
theorem anyMatch_eq_false_iff {patterns : List Pattern} {path : String} :
    anyMatch patterns path = false ↔ ∀ pattern ∈ patterns, isMatch pattern path = false := by
  simp only [anyMatch, List.any_eq_false, Bool.not_eq_true]

/-- Several sets put together match what one of them matches. -/
theorem anyMatch_flatten (sets : List (List Pattern)) (path : String) :
    anyMatch sets.flatten path = true ↔ ∃ set ∈ sets, anyMatch set path = true := by
  simp only [anyMatch, List.any_flatten, List.any_eq_true]

end Conventions.Glob
