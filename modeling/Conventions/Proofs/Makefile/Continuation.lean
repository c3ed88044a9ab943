import Conventions.Proofs.Makefile.Lines
import Conventions.Proofs.Text.Blank

/-!
# Continued lines of a Makefile

A line that ends in a backslash goes on in the next one. What has been joined so far never ends in a
blank, and what is joined to it never starts with one, so a single space between them is all that is
left of the place where the line was broken. Hence a line can be broken at any single space.
-/

namespace Conventions.Makefile

/-! ### What a text says -/

/-- What the lines of a text say, one after the other, without those that say nothing. -/
def statements (text : List Char) : List Line :=
  ((logicalLines text).map classify).filter (· ≠ .nothing)

/-- Lines that say nothing can be left out. -/
theorem foldl_read_filter (lines : List Line) (state : State) :
    (lines.filter (· ≠ .nothing)).foldl State.read state = lines.foldl State.read state := by
  induction lines generalizing state with
  | nil => rfl
  | cons line rest ih =>
    by_cases hnothing : line = .nothing
    · subst hnothing
      exact ih state
    · rw [List.filter_cons_of_pos (by simpa using hnothing), List.foldl_cons, List.foldl_cons, ih]

/-- Texts that say the same have the same targets. -/
theorem parse_congr {text other : String} (h : statements text.toList = statements other.toList) :
    parse text = parse other := by
  have htargets (text : List Char) :
      targets text = ((statements text).foldl State.read ⟨[], []⟩).targets := by
    rw [statements, foldl_read_filter, List.foldl_map]
    rfl
  rw [parse, parse, htargets, htargets, h]

/-- A line that does not belong to a recipe says what it says without its blanks. -/
theorem classify_congr {line other : List Char} (hrecipe : ¬ IsRecipe line)
    (hrecipe' : ¬ IsRecipe other) (htrim : Text.trim line = Text.trim other) :
    classify line = classify other := by
  by_cases hidle : IsIdle line
  · have hidle' : IsIdle other := ⟨hrecipe', htrim ▸ hidle.2⟩
    rw [classify_of_idle hidle, classify_of_idle hidle']
  · have hidle' : ¬ IsIdle other := fun hidle' => hidle ⟨hrecipe, htrim ▸ hidle'.2⟩
    rw [classify_of_not_idle hrecipe hidle, classify_of_not_idle hrecipe' hidle', htrim]

/-- A space behind a line does not change what it says. -/
theorem classify_append_space (line : List Char) : classify (line ++ [' ']) = classify line := by
  have hspace : Text.AreBlank [' '] := by decide
  cases line with
  | nil => rfl
  | cons c rest =>
    by_cases htab : c = '\t'
    · subst htab
      exact congrArg Line.recipe (Text.trimEnd_append_of_blank rest hspace)
    · have htrim := Text.trim_append_of_blank (c :: rest) hspace
      exact classify_congr (by simpa [IsRecipe] using htab) (by simpa [IsRecipe] using htab) htrim

/-! ### Joining -/

/-- A line behind what has been joined so far. -/
def joinedTo (pending : Option (List Char)) (line : List Char) : List Char :=
  match pending with
  | some joined => joined ++ ' ' :: Text.trimStart line
  | none => line

variable {pending : Option (List Char)} {line start blanks : List Char}

/-- A line with a backslash at its end is pending. -/
theorem joinFrom_open {head : List Char} (h : joinedTo pending line = head ++ ['\\'])
    (more : List (List Char)) :
    joinFrom pending (line :: more) = joinFrom (some (Text.trimEnd head)) more := by
  have hcontinued : continued? (joinedTo pending line) = some head := by
    rw [h]
    simp [continued?]
  cases pending with
  | none => simp only [joinFrom, show continued? line = some head from hcontinued]
  | some joined =>
    simp only [joinFrom,
      show continued? (joined ++ ' ' :: Text.trimStart line) = some head from hcontinued]

/-- A line without a backslash at its end is done. -/
theorem joinFrom_closed (h : (joinedTo pending line).getLast? ≠ some '\\')
    (more : List (List Char)) :
    joinFrom pending (line :: more) = joinedTo pending line :: joinFrom none more := by
  have hcontinued : continued? (joinedTo pending line) = none := by
    unfold continued?
    split
    · next rest hreverse =>
      rw [← List.head?_reverse, hreverse] at h
      exact absurd rfl h
    · rfl
  cases pending with
  | none =>
    simp only [joinFrom, show continued? line = none from hcontinued]
    rfl
  | some joined =>
    simp only [joinFrom,
      show continued? (joined ++ ' ' :: Text.trimStart line) = none from hcontinued]
    rfl

/-- What is pending does not end in a blank. -/
def IsTrimmed (pending : Option (List Char)) : Prop :=
  ∀ joined ∈ pending, Text.trimEnd joined = joined

/-- What has been trimmed at its end is so. -/
theorem trimEnd_trimEnd (text : List Char) :
    Text.trimEnd (Text.trimEnd text) = Text.trimEnd text := by
  obtain ⟨blanks, hblanks, htext⟩ := Text.exists_eq_trimEnd_append text
  conv_rhs => rw [htext, Text.trimEnd_append_of_blank _ hblanks]

/-- Behind some lines the joining goes on from what they leave pending. -/
theorem exists_joinFrom_append (htrimmed : IsTrimmed pending) (lines : List (List Char)) :
    ∃ done pending', IsTrimmed pending' ∧
      ∀ more, joinFrom pending (lines ++ more) = done ++ joinFrom pending' more := by
  induction lines generalizing pending with
  | nil => exact ⟨[], pending, htrimmed, fun _ => rfl⟩
  | cons line rest ih =>
    by_cases hopen : (joinedTo pending line).getLast? = some '\\'
    · obtain ⟨head, hhead⟩ := List.getLast?_eq_some_iff.mp hopen
      have hhead' : IsTrimmed (some (Text.trimEnd head)) := by
        intro joined hjoined
        cases hjoined
        exact trimEnd_trimEnd head
      obtain ⟨done, pending', hpending', hmore⟩ := ih hhead'
      refine ⟨done, pending', hpending', fun more => ?_⟩
      rw [List.cons_append, joinFrom_open hhead, hmore]
    · have hnone : IsTrimmed none := fun _ hnever => nomatch hnever
      obtain ⟨done, pending', hpending', hmore⟩ := ih hnone
      refine ⟨joinedTo pending line :: done, pending', hpending', fun more => ?_⟩
      rw [List.cons_append, joinFrom_closed hopen, hmore, List.cons_append]

/-- How far the lines of a text have been joined behind a first part of it: some are done, something
is pending, and the next line has been started. -/
structure IsReached (before : List Char) (done : List (List Char))
    (pending : Option (List Char)) (start : List Char) : Prop where
  notMem : '\n' ∉ start
  isLast : before = start ∨ ∃ whole, before = whole ++ '\n' :: start
  isTrimmed : IsTrimmed pending
  logicalLines_append : ∀ rest,
    logicalLines (before ++ rest) = done ++ joinFrom pending (Text.lines (start ++ rest))

/-- A line that has been started ends as the text before it does. -/
theorem IsReached.getLast?_eq {before : List Char} {done : List (List Char)}
    (h : IsReached before done pending start) {c : Char} (hc : start.getLast? = some c) :
    before.getLast? = some c := by
  rcases h.isLast with rfl | ⟨whole, rfl⟩
  · exact hc
  · rw [List.append_cons, List.getLast?_append, hc]
    rfl

/-- Behind each part of a text the joining has come somewhere. -/
theorem exists_isReached (before : List Char) :
    ∃ done pending start, IsReached before done pending start := by
  obtain ⟨first, start, hstart, hends, hlines⟩ := Text.exists_lines_append before
  have hnone : IsTrimmed none := fun _ hnever => nomatch hnever
  obtain ⟨done, pending, hpending, hmore⟩ := exists_joinFrom_append hnone first
  refine ⟨done, pending, start, hstart, hends, hpending, fun rest => ?_⟩
  rw [logicalLines, hlines, hmore]

/-! ### Broken lines -/

/-- A text that does not end in a blank does not after it has been trimmed at its start. -/
theorem trimEnd_trimStart {text : List Char} (h : Text.trimEnd text = text) :
    Text.trimEnd (Text.trimStart text) = Text.trimStart text := by
  by_cases hblank : Text.trimEnd (Text.trimStart text) = []
  · have hstart : Text.AreBlank (Text.trimStart text) := by
      rwa [Text.trimEnd_eq_rdropWhile, List.rdropWhile_eq_nil_iff] at hblank
    have hnil := Text.trimStart_append_of_blank hstart []
    rw [List.append_nil, Text.trimStart, Text.trimStart, List.dropWhile_idempotent] at hnil
    rw [hblank]
    exact hnil.symm
  · have hsplit : text.takeWhile Text.isBlank ++ Text.trimStart text = text :=
      List.takeWhile_append_dropWhile
    have hboth := Text.trimEnd_append (text.takeWhile Text.isBlank) hblank
    rw [hsplit, h] at hboth
    exact List.append_cancel_left (hboth.symm.trans hsplit.symm)

/-- Behind a space the rest of a line stands as if it had been joined to what is before the
space. -/
theorem exists_joinedTo_space (htrimmed : IsTrimmed pending) (hstart : Text.trimEnd start = start) :
    ∃ head, joinedTo pending (start ++ [' ', '\\']) = head ++ ['\\'] ∧
      ∀ rest, Text.trimStart rest = rest →
        joinedTo pending (start ++ ' ' :: rest) = Text.trimEnd head ++ ' ' :: rest := by
  have hspace : Text.AreBlank [' '] := by decide
  cases pending with
  | none =>
    refine ⟨start ++ [' '], by simp [joinedTo], fun rest _ => ?_⟩
    rw [Text.trimEnd_append_of_blank _ hspace, hstart]
    rfl
  | some joined =>
    by_cases hblank : Text.trimStart start = []
    · -- A blank beginning of the line is nothing at all.
      obtain rfl : start = [] := by
        rw [← hstart, Text.trimEnd_eq_rdropWhile, List.rdropWhile_eq_nil_iff]
        exact Text.trimStart_eq_nil_iff.mp hblank
      refine ⟨joined ++ [' '], by simp [joinedTo, Text.trimStart, Text.isBlank], fun rest hrest => ?_⟩
      rw [Text.trimEnd_append_of_blank _ hspace, htrimmed joined rfl]
      have htrim : Text.trimStart (' ' :: rest) = Text.trimStart rest := rfl
      rw [joinedTo, List.nil_append, htrim, hrest]
    · refine ⟨joined ++ ' ' :: Text.trimStart start ++ [' '], ?_, fun rest _ => ?_⟩
      · rw [joinedTo, Text.trimStart_append hblank]
        simp
      · have hend := trimEnd_trimStart hstart
        have hkept : Text.trimEnd (joined ++ ' ' :: Text.trimStart start) =
            joined ++ ' ' :: Text.trimStart start := by
          rw [List.append_cons, Text.trimEnd_append _ (by rwa [hend]), hend]
        rw [Text.trimEnd_append_of_blank _ hspace, hkept, joinedTo, Text.trimStart_append hblank]
        simp

/-- A line that is broken at a space is joined again, whatever blanks the next line starts with. -/
theorem joinFrom_broken (htrimmed : IsTrimmed pending) (hstart : Text.trimEnd start = start)
    (hline : Text.trimStart line = line) (hblanks : Text.AreBlank blanks)
    (more : List (List Char)) :
    joinFrom pending ((start ++ [' ', '\\']) :: (blanks ++ line) :: more) =
      joinFrom pending ((start ++ ' ' :: line) :: more) := by
  obtain ⟨head, hopen, hspace⟩ := exists_joinedTo_space htrimmed hstart
  have hjoined : joinedTo (some (Text.trimEnd head)) (blanks ++ line) =
      joinedTo pending (start ++ ' ' :: line) := by
    rw [hspace line hline, joinedTo, Text.trimStart_append_of_blank hblanks, hline]
  rw [joinFrom_open hopen]
  by_cases hcontinued : (joinedTo pending (start ++ ' ' :: line)).getLast? = some '\\'
  · obtain ⟨whole, hwhole⟩ := List.getLast?_eq_some_iff.mp hcontinued
    rw [joinFrom_open hwhole, joinFrom_open (hjoined.trans hwhole)]
  · rw [joinFrom_closed hcontinued, joinFrom_closed (by rwa [hjoined]), hjoined]

/-- Where a text that is broken at its last space ends, only this space is lost. -/
theorem map_classify_joinFrom_broken (htrimmed : IsTrimmed pending)
    (hstart : Text.trimEnd start = start) :
    (joinFrom pending [start ++ [' ', '\\']]).map classify =
      (joinFrom pending [start ++ [' ']]).map classify := by
  obtain ⟨head, hopen, hspace⟩ := exists_joinedTo_space htrimmed hstart
  have hlast := hspace [] rfl
  rw [joinFrom_open hopen, joinFrom_closed (by simp [hlast]), hlast]
  simp [joinFrom, classify_append_space]

/-- The character before a place is not blank, unless a line starts there. -/
def IsClearBefore (before : List Char) : Prop :=
  ∀ c ∈ before.getLast?, c = '\n' ∨ Text.isBlank c = false

instance (before : List Char) : Decidable (IsClearBefore before) :=
  Option.decidableForallMem _

/-- The character behind a place is not blank, unless the line ends there. -/
def IsClearBehind (rest : List Char) : Prop :=
  ∀ c ∈ rest.head?, c = '\n' ∨ ['\r', '\n'] <+: rest ∨ Text.isBlank c = false

instance (rest : List Char) : Decidable (IsClearBehind rest) :=
  Option.decidableForallMem _

/-- A line that has been started does not end in a blank where none stands before the place. -/
theorem IsReached.trimEnd_start {before : List Char} {done : List (List Char)}
    (h : IsReached before done pending start) (hclear : IsClearBefore before) :
    Text.trimEnd start = start := by
  induction start using List.reverseRecOn with
  | nil => rfl
  | append_singleton shorter last =>
    have hblank : Text.isBlank last = false := by
      refine (hclear last (h.getLast?_eq (by simp))).resolve_left ?_
      rintro rfl
      exact h.notMem (by simp)
    rw [Text.trimEnd_append _ (by simp [Text.trimEnd, hblank])]
    simp [Text.trimEnd, hblank]

/-- A last line that starts behind a place starts with no blank. -/
theorem IsClearBehind.trimStart_eq {rest : List Char} (h : IsClearBehind rest)
    (hfeed : '\n' ∉ rest) : Text.trimStart rest = rest := by
  cases rest with
  | nil => rfl
  | cons c rest =>
    rcases h c rfl with rfl | ⟨more, hmore⟩ | hblank
    · exact absurd List.mem_cons_self hfeed
    · rw [← hmore] at hfeed
      simp at hfeed
    · exact Text.trimStart_cons hblank rest

/-- A line that starts behind a place starts with no blank after its end has been taken off, and
blanks in front of it do not change where it ends. -/
theorem IsClearBehind.ended_eq {more : List Char} (h : IsClearBehind (line ++ '\n' :: more))
    (hfeed : '\n' ∉ line) (hblanks : '\r' ∉ blanks) :
    Text.trimStart (Text.ended line) = Text.ended line ∧
      Text.ended (blanks ++ line) = blanks ++ Text.ended line := by
  cases line with
  | nil =>
    have hlast : blanks.getLast? ≠ some '\r' := fun hlast =>
      hblanks (List.mem_of_getLast? hlast)
    refine ⟨rfl, ?_⟩
    rw [List.append_nil, Text.ended_of_getLast?_ne hlast]
    exact (List.append_nil blanks).symm
  | cons c line =>
    have hchar : line = [] ∧ c = '\r' ∨ c ≠ '\r' ∧ Text.isBlank c = false := by
      rcases h c rfl with rfl | ⟨rest, hrest⟩ | hblank
      · exact absurd List.mem_cons_self hfeed
      · obtain ⟨rfl, hline⟩ := List.cons.inj hrest
        left
        cases line with
        | nil => exact ⟨rfl, rfl⟩
        | cons d line =>
          obtain ⟨rfl, -⟩ := List.cons.inj hline
          simp at hfeed
      · right
        refine ⟨?_, hblank⟩
        rintro rfl
        exact absurd hblank (by decide)
    rcases hchar with ⟨rfl, rfl⟩ | ⟨hreturn, hblank⟩
    · refine ⟨rfl, ?_⟩
      rw [Text.ended_append_return]
      exact (List.append_nil blanks).symm
    · have hended := Text.ended_append_cons [] hreturn line
      rw [List.nil_append] at hended
      rw [hended, Text.ended_append_cons blanks hreturn]
      exact ⟨Text.trimStart_cons hblank _, rfl⟩

/-- A text says the same when it is broken at a single space. -/
theorem statements_broken {before rest : List Char} (hbefore : IsClearBefore before)
    (hrest : IsClearBehind rest) (hblanks : ∀ c ∈ blanks, c = ' ' ∨ c = '\t') :
    statements (before ++ ' ' :: '\\' :: '\n' :: (blanks ++ rest)) =
      statements (before ++ ' ' :: rest) := by
  obtain ⟨done, pending, start, hreached⟩ := exists_isReached before
  have hstart := hreached.trimEnd_start hbefore
  have hblank : Text.AreBlank blanks := fun c hc => by
    rcases hblanks c hc with rfl | rfl <;> rfl
  have hopen : '\n' ∉ start ++ [' ', '\\'] := by simp [hreached.notMem]
  have hbroken (rest : List Char) : Text.lines (start ++ ' ' :: '\\' :: '\n' :: rest) =
      (start ++ [' ', '\\']) :: Text.lines rest := by
    have hended : Text.ended (start ++ [' ', '\\']) = start ++ [' ', '\\'] :=
      Text.ended_of_getLast?_ne (by simp)
    rw [← hended, ← Text.lines_append_cons hopen]
    simp
  unfold statements
  congr 1
  rw [hreached.logicalLines_append, hreached.logicalLines_append, hbroken, List.map_append,
    List.map_append]
  congr 1
  by_cases hfeed : '\n' ∈ rest
  · obtain ⟨line, more, rfl, hline⟩ := List.eq_append_cons_of_mem hfeed
    have hreturn : '\r' ∉ blanks := fun hmem => by
      rcases hblanks _ hmem with hnever | hnever <;> simp at hnever
    have hnext : '\n' ∉ blanks ++ line := by
      rw [List.mem_append, not_or]
      refine ⟨fun hmem => ?_, hline⟩
      rcases hblanks _ hmem with hnever | hnever <;> simp at hnever
    have hwhole : '\n' ∉ start ++ ' ' :: line := by simp [hreached.notMem, hline]
    obtain ⟨htrim, hended⟩ := hrest.ended_eq hline hreturn
    rw [← List.append_assoc, Text.lines_append_cons hnext, hended, ← List.cons_append,
      ← List.append_assoc, Text.lines_append_cons hwhole,
      Text.ended_append_cons start (by decide), joinFrom_broken hreached.isTrimmed hstart htrim hblank]
  · have hnext : '\n' ∉ blanks ++ rest := by
      rw [List.mem_append, not_or]
      refine ⟨fun hmem => ?_, hfeed⟩
      rcases hblanks _ hmem with hnever | hnever <;> simp at hnever
    have hwhole : '\n' ∉ start ++ ' ' :: rest := by simp [hreached.notMem, hfeed]
    rw [Text.lines_of_notMem hwhole (by simp)]
    by_cases hempty : blanks ++ rest = []
    · obtain ⟨rfl, rfl⟩ := List.append_eq_nil_iff.mp hempty
      exact map_classify_joinFrom_broken hreached.isTrimmed hstart
    · rw [Text.lines_of_notMem hnext hempty,
        joinFrom_broken hreached.isTrimmed hstart (hrest.trimStart_eq hfeed) hblank]

/-- The targets of a Makefile stay the same when a line is broken at a single space: with a
backslash behind the space, and any spaces and tabs in front of the rest. -/
theorem parse_broken {before rest blanks : String} (hbefore : IsClearBefore before.toList)
    (hrest : IsClearBehind rest.toList) (hblanks : ∀ c ∈ blanks.toList, c = ' ' ∨ c = '\t') :
    parse (before ++ " \\\n" ++ blanks ++ rest) = parse (before ++ " " ++ rest) := by
  refine parse_congr ?_
  have hbroken := statements_broken hbefore hrest hblanks
  simpa [String.toList_append] using hbroken

/-- A line that was broken before can be broken again, here a list of prerequisites with a recipe
below it. -/
theorem parse_broken_twice :
    IsClearBefore "all: one \\\n  two".toList ∧ IsClearBehind "three\n\tcc main.c\n".toList ∧
      (∀ c ∈ "\t ".toList, c = ' ' ∨ c = '\t') ∧
      parse ("all: one \\\n  two" ++ " \\\n" ++ "\t " ++ "three\n\tcc main.c\n") =
        parse ("all: one \\\n  two" ++ " " ++ "three\n\tcc main.c\n") ∧
      parse "all: one \\\n  two three\n\tcc main.c\n" =
        .object [("all", .object [("dependencies", .string "one two three"),
          ("contents", .string "cc main.c")])] :=
  ⟨by decide, by decide, by simp, parse_broken (by decide) (by decide) (by simp), rfl⟩

end Conventions.Makefile
