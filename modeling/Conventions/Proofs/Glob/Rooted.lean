import Conventions.Glob.Depth
import Conventions.Proofs.Glob.Below
import Conventions.Proofs.Path

/-!
# A separator in front of a pattern

A pattern that begins with a separator and may match at any depth has a deep start followed by
something that takes a separator. There is no such place in the path of a file: neither does it
begin with a separator, nor do two of them follow each other.
-/

namespace Conventions.Glob

/-! ### Reading -/

/-- A token that takes a separator before all else. -/
def Token.Separates (token : Token) : Prop :=
  token = .literal '/' ∨ token = .deepMiddle ∨ token = .deepEnd

/-- The tokens outside of all groups, the last one first. -/
def outermost (tokens : List Token) : List Group → List Token
  | [] => tokens
  | group :: groups => outermost group.outer groups

/-- The tokens outside of all groups begin with a deep start and a separator. -/
def Rooted (tokens : List Token) (groups : List Group) : Prop :=
  ∃ above token, outermost tokens groups = above ++ [token, .deepStart] ∧ token.Separates

/-- Further tokens do not change the beginning. -/
theorem Rooted.cons {tokens : List Token} {groups : List Group} (h : Rooted tokens groups)
    (token : Token) : Rooted (token :: tokens) groups := by
  obtain ⟨above, first, htokens, hfirst⟩ := h
  cases groups with
  | nil => exact ⟨token :: above, first, congrArg (token :: ·) htokens, hfirst⟩
  | cons group groups => exact ⟨above, first, htokens, hfirst⟩

namespace ParseState

/-- What was read outside of all groups begins with a deep start and a separator. -/
def IsRooted (state : ParseState) : Prop := Rooted state.tokens state.groups

/-- One more token does not change the beginning. -/
theorem IsRooted.push {state : ParseState} (h : state.IsRooted) (token : Token) (c : Char) :
    (state.push token c).IsRooted :=
  Rooted.cons h token

/-- A deep star takes the place of the token before it, unless this is a deep one that stays. -/
theorem tokens_pushDeep {state : ParseState} {top : Token} {rest : List Token}
    (h : state.tokens = top :: rest) (token : Token) (last : Char) :
    ∃ other, (state.pushDeep token last).tokens = other :: rest ∧
      (other = token ∨ other = top ∧ (top = .deepStart ∨ top = .deepEnd)) := by
  unfold ParseState.pushDeep
  rw [h]
  cases top with
  | deepStart => exact ⟨.deepStart, rfl, Or.inr ⟨rfl, Or.inl rfl⟩⟩
  | deepEnd => exact ⟨.deepEnd, rfl, Or.inr ⟨rfl, Or.inr rfl⟩⟩
  | _ => exact ⟨token, rfl, Or.inl rfl⟩

/-- A deep star may take the place of the separator at the beginning, but then it takes one as
well. -/
theorem IsRooted.pushDeep {state : ParseState} (h : state.IsRooted) {token : Token}
    (htoken : token.Separates) (last : Char) : (state.pushDeep token last).IsRooted := by
  obtain ⟨above, first, htokens, hfirst⟩ := h
  unfold IsRooted
  rw [groups_pushDeep]
  cases hgroups : state.groups with
  | cons group groups =>
    rw [hgroups] at htokens
    exact ⟨above, first, htokens, hfirst⟩
  | nil =>
    rw [hgroups, outermost] at htokens
    cases above with
    | nil =>
      obtain ⟨other, hother, hsame⟩ := tokens_pushDeep htokens token last
      refine ⟨[], other, hother, ?_⟩
      rcases hsame with rfl | ⟨rfl, -⟩
      · exact htoken
      · exact hfirst
    | cons top rest =>
      obtain ⟨other, hother, -⟩ := tokens_pushDeep htokens token last
      exact ⟨other :: rest, first, hother, hfirst⟩

/-- A character of a class does not change the beginning. -/
theorem IsRooted.readInClass {state next : ParseState} (h : state.IsRooted) {soFar : ClassSoFar}
    {c : Char} (hnext : state.readInClass soFar c = .ok next) : next.IsRooted := by
  have hkept : next.groups = state.groups ∧
      (next.tokens = state.tokens ∨ ∃ token, next.tokens = token :: state.tokens) := by
    simp only [ParseState.readInClass, ParseState.push, bind, Except.bind] at hnext
    grind
  obtain ⟨hgroups, htokens | ⟨token, htokens⟩⟩ := hkept
  · rw [IsRooted, hgroups, htokens]
    exact h
  · rw [IsRooted, hgroups, htokens]
    exact Rooted.cons h token

/-- A character outside of classes does not change the beginning: a group that it opens begins
behind it, and one that it closes began there. -/
theorem IsRooted.readPlain {state next : ParseState} (h : state.IsRooted) {c : Char}
    (hnext : state.readPlain c = .ok next) : next.IsRooted := by
  unfold ParseState.readPlain at hnext
  split at hnext
  · cases hnext
    exact h.push _ c
  split at hnext
  · cases hnext
    exact h
  split at hnext
  · cases hnext
    exact h
  split at hnext
  · split at hnext
    · cases hnext
    · next group groups hgroups =>
      cases hnext
      rw [IsRooted, hgroups] at h
      have houter : Rooted group.outer groups := h
      exact houter.cons _
  split at hnext
  · split at hnext
    · cases hnext
      exact h.push _ c
    · next group groups hgroups =>
      cases hnext
      rw [IsRooted, hgroups] at h
      exact h
  split at hnext
  · cases hnext
    exact h
  · cases hnext
    exact h.push _ c

/-- What is read from such a state on begins with a deep start and a separator. -/
theorem IsRooted.of_run {state : ParseState} {chars : List Char} {tokens : List Token}
    (hrooted : state.IsRooted) (h : state.run chars = .ok tokens) :
    ∃ token rest, tokens = .deepStart :: token :: rest ∧ token.Separates := by
  fun_induction run state chars with
  | case1 | case2 | case4 => cases h
  | case3 state hmode hgroups =>
    cases h
    obtain ⟨above, token, htokens, htoken⟩ := hrooted
    obtain hnil : state.groups = [] := by simpa using hgroups
    rw [hnil, outermost] at htokens
    exact ⟨token, above.reverse, by simp [htokens], htoken⟩
  | case5 state c rest soFar hmode ih =>
    obtain ⟨next, hnext, h⟩ := bind_eq_ok_iff.mp h
    exact ih next (hrooted.readInClass hnext) h
  | case18 state c rest hmode hc ih =>
    obtain ⟨next, hnext, h⟩ := bind_eq_ok_iff.mp h
    exact ih next (hrooted.readPlain hnext) h
  | case6 | case7 | case8 | case11 | case17 =>
    rename_i ih
    exact ih (hrooted.push _ _) h
  | case10 | case12 | case13 | case16 =>
    rename_i ih
    exact ih ((hrooted.push _ _).push _ _) h
  | case9 | case14 =>
    rename_i ih
    exact ih (hrooted.pushDeep (Or.inr (Or.inr rfl)) _) h
  | case15 =>
    rename_i ih
    exact ih (hrooted.pushDeep (Or.inr (Or.inl rfl)) _) h

end ParseState

/-- A pattern with a separator in front of it, at any depth: a deep start, and something that takes
a separator. -/
theorem parse_separator {rest : List Char} {tokens : Pattern}
    (h : parse (String.ofList ('*' :: '*' :: '/' :: '/' :: rest)) = .ok tokens) :
    ∃ token more, tokens = .deepStart :: token :: more ∧ token.Separates := by
  unfold parse at h
  rw [String.toList_ofList] at h
  split at h
  · next found hrun =>
    cases h
    have hstart : ParseState.run ⟨[], [], .plain, none⟩ ('*' :: '*' :: '/' :: '/' :: rest) =
        ParseState.run ⟨[.literal '/', .deepStart], [], .plain, some '/'⟩ rest := by
      simp only [ParseState.run, ParseState.push, List.isEmpty_nil, if_true]
      exact ParseState.run_plain rfl (by decide) rest
    rw [hstart] at hrun
    have hrooted : ParseState.IsRooted ⟨[.literal '/', .deepStart], [], .plain, some '/'⟩ :=
      ⟨[], .literal '/', rfl, Or.inl rfl⟩
    exact hrooted.of_run hrun
  · cases h

/-! ### Matching -/

/-- The bytes of a text are those of its characters. -/
theorem bytesOf_ofList (text : List Char) :
    bytesOf (String.ofList text) = text.flatMap charBytes := by
  induction text with
  | nil => decide +kernel
  | cons c rest ih =>
    have hfirst : bytesOf (String.ofList [c]) = charBytes c := rfl
    rw [← List.singleton_append, String.ofList_append, bytesOf_append, hfirst, ih]
    rfl

/-- The bytes of a character, as it is encoded. -/
theorem charBytes_eq (c : Char) : charBytes c = String.utf8EncodeChar c := by
  have hbytes : c.toString.toUTF8 = (String.utf8EncodeChar c).toByteArray := by
    rw [← List.utf8Encode_singleton, ← String.toByteArray_singleton]
    rfl
  rw [charBytes, hbytes, ByteArray.toList, toList_loop_eq]
  simp

/-- Only a separator has the byte of one: in a sequence of several bytes, each is above those of
single characters. -/
theorem eq_separator_of_mem {c : Char} (h : separator ∈ charBytes c) : c = '/' := by
  have hbyte : ∀ n : Nat, separator = UInt8.ofNat n ↔ n % 256 = 47 := fun n => by
    rw [← UInt8.toNat_inj, eq_comm]
    rfl
  have hcode : c.val.toNat = 47 := by
    rw [charBytes_eq, String.utf8EncodeChar] at h
    split_ifs at h
    all_goals
      simp only [List.mem_cons, List.not_mem_nil, or_false, hbyte] at h
      omega
  exact Char.ext (UInt32.toNat_inj.mp hcode)

/-- The bytes of a name: there are some, and none of them is a separator. -/
theorem bytesOf_isName {name : String} (h : RepoPath.IsName name) :
    bytesOf name ≠ [] ∧ separator ∉ bytesOf name := by
  have hbytes : bytesOf name = name.toList.flatMap charBytes := by
    rw [← bytesOf_ofList, String.ofList_toList]
  rw [hbytes]
  constructor
  · obtain ⟨c, rest, hname⟩ := List.exists_cons_of_ne_nil fun hnil => h.ne_empty
      (String.toList_eq_nil_iff.mp hnil)
    simp [hname, charBytes_eq, String.utf8EncodeChar_ne_nil]
  · intro hmem
    obtain ⟨c, hc, hbyte⟩ := List.mem_flatMap.mp hmem
    exact h.noSeparator (eq_separator_of_mem hbyte ▸ hc)

/-- Names are joined by single separators: none is in front of them, and no two follow each
other. -/
theorem not_separators {names : List String} (h : ∀ name ∈ names, RepoPath.IsName name) :
    (∀ more, bytesOf ("/".intercalate names) ≠ separator :: more) ∧
    ∀ before more, bytesOf ("/".intercalate names) ≠ before ++ separator :: separator :: more := by
  induction names with
  | nil =>
    have hnil : bytesOf ("/".intercalate []) = [] := by decide +kernel
    rw [hnil]
    exact ⟨fun more => by simp, fun before more => by simp⟩
  | cons name rest ih =>
    obtain ⟨hname, hrest⟩ := List.forall_mem_cons.mp h
    obtain ⟨hsome, hclean⟩ := bytesOf_isName hname
    by_cases hlast : rest = []
    · rw [hlast, String.intercalate_singleton]
      exact ⟨fun more heq => hclean (by simp [heq]), fun before more heq => hclean (by simp [heq])⟩
    · obtain ⟨hfront, hdouble⟩ := ih hrest
      have hbytes : bytesOf ("/".intercalate (name :: rest)) =
          bytesOf name ++ separator :: bytesOf ("/".intercalate rest) := by
        rw [String.intercalate_cons_of_ne_nil hlast, bytesOf_below]
      rw [hbytes]
      constructor
      · intro more heq
        obtain ⟨b, bytes, hbytes⟩ := List.exists_cons_of_ne_nil hsome
        rw [hbytes, List.cons_append] at heq
        exact hclean (by simp [hbytes, (List.cons.inj heq).1])
      · intro before more heq
        rcases List.append_eq_append_iff.mp heq with ⟨inner, -, hinner⟩ | ⟨inner, hinner, heq⟩
        · cases inner with
          | nil => exact hfront more (List.cons.inj hinner).2
          | cons b inner => exact hdouble inner more (List.cons.inj hinner).2
        · cases inner with
          | nil => exact hfront more (List.cons.inj heq).2.symm
          | cons b inner => exact hclean (by simp [hinner, (List.cons.inj heq).1])

/-- What begins with a deep start and a separator matches no path of names. -/
theorem isMatch_separator {token : Token} (htoken : token.Separates) (more : Pattern)
    {names : List String} (h : ∀ name ∈ names, RepoPath.IsName name) :
    isMatch (.deepStart :: token :: more) ("/".intercalate names) = false := by
  obtain ⟨hfront, hdouble⟩ := not_separators h
  rw [← Bool.not_eq_true, isMatch_iff]
  rintro (hlone | ⟨first, _, heaten, hfirst, second, rest, rfl, hsecond, -⟩)
  · cases hlone
  · obtain ⟨inner, rfl⟩ : ∃ inner, second = separator :: inner := by
      rcases htoken with rfl | rfl | rfl
      · exact ⟨[], hsecond.trans (by decide +kernel)⟩
      · obtain ⟨between, rfl, -⟩ := hsecond
        exact ⟨between, rfl⟩
      · exact hsecond
    rcases hfirst with rfl | ⟨directories, rfl⟩
    · exact hfront _ heaten
    · exact hdouble directories (inner ++ rest) (by simpa using heaten)

end Conventions.Glob
