import Conventions.Proofs.Makefile.Continuation
import Conventions.Proofs.Makefile.Targets

/-!
# Comments in a Makefile

A comment behind a line adds nothing to what the line says if the line is blank or a comment itself,
or if it has a colon: the comment is cut off from the prerequisites. On a line without a colon a
comment is not cut off, so a colon in the comment can make a rule of it, whose targets are the words
of the line and of the comment. Nothing else goes wrong.
-/

namespace Conventions.Makefile

/-- A line with a comment behind it. -/
def commented (line comment : List Char) : List Char := line ++ ' ' :: '#' :: comment

/-- A comment behind a line is cut at its first colon. The line says something but has no colon of
its own, and nothing in front of the colon or behind it makes an assignment of it. -/
structure IsMisread (line comment before after : List Char) : Prop where
  not_isIdle : ¬ IsIdle line
  notMem_line : ':' ∉ line
  comment_eq : comment = before ++ ':' :: after
  notMem_before : ':' ∉ before
  not_isAssignment : ¬ IsAssignment (commented line before) after

variable {line comment before after blanks rest : List Char}

/-! ### Blanks and comments behind a rule -/

/-- What follows a text adds no prefix of a kind whose signs it does not start with. -/
theorem prefix_append_iff {sign : List Char} (h : ∀ c ∈ rest.head?, c ∉ sign) :
    sign <+: after ++ rest ↔ sign <+: after := by
  constructor
  · intro hsign
    rcases List.prefix_or_prefix_of_prefix hsign (List.prefix_append after rest) with
      hshorter | ⟨more, rfl⟩
    · exact hshorter
    · cases more with
      | nil => simp
      | cons c more =>
        obtain ⟨others, hothers⟩ := (List.prefix_append_right_inj after).mp hsign
        exact absurd (by simp) (h c (by rw [← hothers]; rfl))
  · rintro ⟨more, rfl⟩
    exact ⟨more ++ rest, by simp⟩

/-- A text may be blank and end in a comment. -/
def IsRemark (rest : List Char) : Prop :=
  ∃ blanks comment, Text.AreBlank blanks ∧ rest = blanks ++ comment ∧ ∀ c ∈ comment.head?, c = '#'

/-- A remark starts with a blank or the mark of a comment. -/
theorem IsRemark.isBlank_or_eq (h : IsRemark rest) {c : Char} (hc : c ∈ rest.head?) :
    Text.isBlank c = true ∨ c = '#' := by
  obtain ⟨blanks, comment, hblanks, rfl, hcomment⟩ := h
  cases blanks with
  | nil => exact Or.inr (hcomment c hc)
  | cons first others =>
    obtain rfl : first = c := by simpa using hc
    exact Or.inl (hblanks first (by simp))

/-- A remark behind the prerequisites adds nothing but blanks to them. -/
theorem exists_prerequisitePart_append (h : IsRemark rest) (after : List Char) :
    ∃ blanks, Text.AreBlank blanks ∧
      prerequisitePart (after ++ rest) = prerequisitePart after ++ blanks := by
  have hcolons : behindColons (after ++ rest) = behindColons after ++ rest := by
    cases after with
    | nil =>
      refine behindColons_of_forall_ne fun more hmore => ?_
      rw [List.nil_append] at hmore
      subst hmore
      rcases h.isBlank_or_eq rfl with hnever | hnever
      · cases hnever
      · cases hnever
    | cons c others =>
      by_cases hc : c = ':'
      · subst hc
        rfl
      · have hne {text : List Char} : ∀ more, c :: text ≠ ':' :: more :=
          fun more heq => hc (List.cons.inj heq).1
        rw [List.cons_append, behindColons_of_forall_ne hne, behindColons_of_forall_ne hne,
          List.cons_append]
  obtain ⟨blanks, comment, hblanks, rfl, hcomment⟩ := h
  have hpass : ∀ c ∈ blanks, (c != ';' && c != '#') = true := by
    intro c hc
    have hsemicolon : c ≠ ';' := fun heq => hblanks.notMem (by decide) (heq ▸ hc)
    have hmark : c ≠ '#' := fun heq => hblanks.notMem (by decide) (heq ▸ hc)
    simp [hsemicolon, hmark]
  have hstop : comment.takeWhile (fun c => c != ';' && c != '#') = [] := by
    cases comment with
    | nil => rfl
    | cons c others =>
      obtain rfl := hcomment c rfl
      rfl
  unfold prerequisitePart
  rw [hcolons, List.takeWhile_append, List.takeWhile_append_of_pos hpass, hstop, List.append_nil]
  split
  · next hall => exact ⟨blanks, hblanks, by rw [(List.takeWhile_prefix _).eq_of_length hall]⟩
  · exact ⟨[], by simp [Text.AreBlank], by simp⟩

/-- A remark behind the prerequisites adds no words to them. -/
theorem words_prerequisitePart_append (h : IsRemark rest) (after : List Char) :
    Text.words (prerequisitePart (after ++ rest)) = Text.words (prerequisitePart after) := by
  obtain ⟨blanks, hblanks, hpart⟩ := exists_prerequisitePart_append h after
  rw [hpart, Text.words_append_of_blank _ hblanks]

/-- A remark behind a rule does not make an assignment of it. -/
theorem isAssignment_append_iff (h : IsRemark rest) (before after : List Char) :
    IsAssignment before (after ++ rest) ↔ IsAssignment before after := by
  obtain ⟨blanks, hblanks, hpart⟩ := exists_prerequisitePart_append h after
  have hhead {sign : List Char} (hsign : sign ⊆ [':', '=']) : ∀ c ∈ rest.head?, c ∉ sign := by
    intro c hc hmem
    have hpair := hsign hmem
    rcases h.isBlank_or_eq hc with hblank | rfl
    · have hnever : ∀ c ∈ [':', '='], Text.isBlank c = false :=
        List.forall_mem_cons.mpr ⟨rfl, List.forall_mem_singleton.mpr rfl⟩
      rw [hnever c hpair] at hblank
      cases hblank
    · simp at hpair
  unfold IsAssignment
  rw [prefix_append_iff (hhead (by simp)), prefix_append_iff (hhead (by simp)), hpart,
    List.mem_append, or_iff_left (hblanks.notMem (by decide))]

/-! ### Lines with comments -/

/-- A line that is not blank is trimmed up to its comment. -/
theorem trim_commented (h : Text.trim line ≠ []) (comment : List Char) :
    Text.trim (commented line comment) =
      Text.trimStart line ++ ' ' :: '#' :: Text.trimEnd comment := by
  have hsome : Text.trimStart line ≠ [] := by
    intro hnil
    rw [Text.trim, hnil] at h
    exact h rfl
  have hcomment : Text.trimEnd ('#' :: comment) = '#' :: Text.trimEnd comment :=
    Text.trimEnd_cons (by decide) comment
  rw [commented, Text.trim, Text.trimStart_append hsome, List.append_cons,
    Text.trimEnd_append _ (by simp [hcomment]), hcomment]
  simp

/-- Behind what is left of a line by trimming there is a remark if the line has a comment. -/
theorem exists_isRemark_commented (h : Text.trim line ≠ []) (comment : List Char) :
    ∃ rest, IsRemark rest ∧ Text.trim (commented line comment) = Text.trim line ++ rest := by
  obtain ⟨blanks, hblanks, hline⟩ := Text.exists_eq_trimEnd_append (Text.trimStart line)
  have hspace : Text.AreBlank (blanks ++ [' ']) := by
    intro c hc
    rcases List.mem_append.mp hc with hc | hc
    · exact hblanks c hc
    · obtain rfl := List.mem_singleton.mp hc
      rfl
  refine ⟨blanks ++ [' '] ++ '#' :: Text.trimEnd comment, ⟨_, _, hspace, rfl, by simp⟩, ?_⟩
  rw [trim_commented h, hline]
  simp [Text.trim]

/-- A comment does not make a recipe of a line. -/
theorem isRecipe_commented_iff : IsRecipe (commented line comment) ↔ IsRecipe line := by
  cases line with
  | nil => simp [IsRecipe, commented]
  | cons c line => simp [IsRecipe, commented]

/-- A line says something with a comment if it does without. -/
theorem isIdle_commented_iff : IsIdle (commented line comment) ↔ IsIdle line := by
  unfold IsIdle
  rw [isRecipe_commented_iff]
  refine and_congr_right fun _ => ?_
  by_cases hblank : Text.trim line = []
  · have htrim : Text.trim (commented line comment) = '#' :: Text.trimEnd comment := by
      rw [commented, Text.trim, Text.trimStart_append_of_blank (Text.trim_eq_nil_iff.mp hblank)]
      exact Text.trimEnd_cons (by decide) comment
    simp [hblank, htrim]
  · obtain ⟨rest, -, htrim⟩ := exists_isRemark_commented hblank comment
    rw [htrim, List.head?_append_of_ne_nil _ hblank]
    simp [hblank]

/-- Where a line is cut at its colon, it is cut with a comment as well. -/
theorem IsCut.exists_commented (h : IsCut line before after) (comment : List Char) :
    ∃ rest, IsRemark rest ∧ IsCut (commented line comment) before (after ++ rest) := by
  have hsome : Text.trim line ≠ [] := by simp [h.trim_eq]
  obtain ⟨rest, hrest, htrim⟩ := exists_isRemark_commented hsome comment
  exact ⟨rest, hrest, by rw [htrim, h.trim_eq, List.append_assoc, List.cons_append], h.isFirst⟩

/-- A line without a colon is cut at the first colon of its comment. -/
theorem isCut_commented (hsome : Text.trim line ≠ []) (hline : ':' ∉ line) (hbefore : ':' ∉ before)
    (after : List Char) : IsCut (commented line (before ++ ':' :: after))
      (Text.trimStart line ++ ' ' :: '#' :: before) (Text.trimEnd after) := by
  have hcolon : Text.trimEnd (':' :: after) = ':' :: Text.trimEnd after :=
    Text.trimEnd_cons (by decide) after
  refine ⟨?_, ?_⟩
  · rw [trim_commented hsome, Text.trimEnd_append _ (by simp [hcolon]), hcolon]
    simp
  · have hstart : ':' ∉ Text.trimStart line := fun hmem => hline ((List.dropWhile_suffix _).subset hmem)
    simp [hstart, hbefore]

/-- The blanks around a line with a comment do not count for the targets. -/
theorem targetsIn_trimStart_append (line : List Char) (before : List Char) :
    targetsIn (Text.trimStart line ++ ' ' :: '#' :: before) = targetsIn (commented line before) := by
  have hfirst : Text.AreBlank (line.takeWhile Text.isBlank) := fun c hc => List.mem_takeWhile_imp hc
  have hline : line.takeWhile Text.isBlank ++ Text.trimStart line = line :=
    List.takeWhile_append_dropWhile
  conv_rhs => rw [commented, ← hline, List.append_assoc]
  rw [targetsIn, targetsIn, Text.words_append_of_blank_left hfirst]

/-- The blanks around a line with a comment do not count for whether it is an assignment. -/
theorem isAssignment_trimStart_iff (line before after : List Char) :
    IsAssignment (Text.trimStart line ++ ' ' :: '#' :: before) (Text.trimEnd after) ↔
      IsAssignment (commented line before) after := by
  obtain ⟨blanks, hblanks, hafter⟩ := Text.exists_eq_trimEnd_append after
  have hremark : IsRemark blanks := ⟨blanks, [], hblanks, by simp, by simp⟩
  have hequals : '=' ∈ Text.trimStart line ↔ '=' ∈ line := by
    have hfirst : Text.AreBlank (line.takeWhile Text.isBlank) := fun c hc =>
      List.mem_takeWhile_imp hc
    have hline : line.takeWhile Text.isBlank ++ Text.trimStart line = line :=
      List.takeWhile_append_dropWhile
    conv_rhs => rw [← hline, List.mem_append, or_iff_right (hfirst.notMem (by decide))]
  conv_rhs => rw [hafter, isAssignment_append_iff hremark]
  unfold IsAssignment commented
  rw [List.mem_append, List.mem_append, hequals]

/-- A line without a colon and its comment up to the colon name a target. -/
theorem targetsIn_commented_ne_nil (line before : List Char) :
    targetsIn (commented line before) ≠ [] := by
  obtain ⟨word, others, hword⟩ := Text.exists_words_cons (c := '#') (by decide) before
  have hwords : Text.words (commented line before) =
      Text.words line ++ ('#' :: word) :: others := by
    rw [commented, Text.words_append_cons (by decide), hword]
  rw [targetsIn, hwords, List.filter_append, List.filter_cons_of_pos (by simp [isSpecial])]
  simp

/-- A comment is read as a part of a rule where it is misread. -/
theorem IsMisread.reads (h : IsMisread line comment before after) (hrecipe : ¬ IsRecipe line) :
    Reads (commented line comment)
      (.rule (targetsIn (commented line before)) (Text.words (prerequisitePart after))) := by
  have hsome : Text.trim line ≠ [] := fun hnil => h.not_isIdle ⟨hrecipe, Or.inl hnil⟩
  obtain ⟨blanks, hblanks, hafter⟩ := Text.exists_eq_trimEnd_append after
  have hremark : IsRemark blanks := ⟨blanks, [], hblanks, by simp, by simp⟩
  have hcut := isCut_commented hsome h.notMem_line h.notMem_before after
  rw [hafter, words_prerequisitePart_append hremark, ← targetsIn_trimStart_append, h.comment_eq]
  refine .rule (mt isRecipe_commented_iff.mp hrecipe) (mt isIdle_commented_iff.mp h.not_isIdle) hcut
    (mt (isAssignment_trimStart_iff line before after).mp h.not_isAssignment) ?_
  rw [targetsIn_trimStart_append]
  exact targetsIn_commented_ne_nil line before

/-- A line without a colon is no rule. -/
theorem reads_other (hrecipe : ¬ IsRecipe line) (hidle : ¬ IsIdle line) (hcolon : ':' ∉ line) :
    Reads line .other := by
  refine .other hrecipe hidle fun before after hcut => ?_
  exact absurd ((Text.mem_trim_iff (by decide)).mp (by simp [hcut.trim_eq])) hcolon

/-- A comment that is not misread does not change what a line says. -/
theorem classify_commented (hrecipe : ¬ IsRecipe line)
    (h : ∀ before after, ¬ IsMisread line comment before after) :
    classify (commented line comment) = classify line := by
  have hrecipe' : ¬ IsRecipe (commented line comment) := mt isRecipe_commented_iff.mp hrecipe
  refine (reads_iff.mp ?_).symm
  have hreads := reads_classify line
  generalize classify line = kind at hreads ⊢
  cases hreads with
  | recipe command => exact absurd rfl hrecipe
  | nothing hidle => exact .nothing (isIdle_commented_iff.mpr hidle)
  | @rule _ before after _ hidle hcut hassignment hnames =>
    obtain ⟨rest, hrest, hcut'⟩ := hcut.exists_commented comment
    rw [← words_prerequisitePart_append hrest after]
    exact .rule hrecipe' (mt isIdle_commented_iff.mp hidle) hcut'
      (mt (isAssignment_append_iff hrest before after).mp hassignment) hnames
  | other _ hidle hnone =>
    have hsome : Text.trim line ≠ [] := fun hnil => hidle ⟨hrecipe, Or.inl hnil⟩
    have hidle' : ¬ IsIdle (commented line comment) := mt isIdle_commented_iff.mp hidle
    by_cases hcolon : ':' ∈ line
    · have hmem : ':' ∈ Text.trim line := (Text.mem_trim_iff (by decide)).mpr hcolon
      obtain ⟨before, after, htrim, hfirst⟩ := List.eq_append_cons_of_mem hmem
      have hcut : IsCut line before after := ⟨htrim, hfirst⟩
      obtain ⟨rest, hrest, hcut'⟩ := hcut.exists_commented comment
      refine .other hrecipe' hidle' fun before' after' hother => ?_
      obtain ⟨rfl, rfl⟩ := hother.unique hcut'
      rw [isAssignment_append_iff hrest]
      exact hnone _ _ hcut
    by_cases hcomment : ':' ∈ comment
    · obtain ⟨before, after, rfl, hfirst⟩ := List.eq_append_cons_of_mem hcomment
      have hcut := isCut_commented hsome hcolon hfirst after
      refine .other hrecipe' hidle' fun before' after' hother => Or.inl ?_
      obtain ⟨rfl, rfl⟩ := hother.unique hcut
      rw [isAssignment_trimStart_iff]
      by_contra hassignment
      exact h before after ⟨hidle, hcolon, rfl, hfirst, hassignment⟩
    · exact reads_other hrecipe' hidle' (by simp [commented, hcolon, hcomment])

/-! ### Lines with a space behind them -/

/-- A line may have one more space at its end. -/
def IsSpaced (line spaced : List Char) : Prop := spaced = line ∨ spaced = line ++ [' ']

section

variable {spaced : List Char}

/-- A space behind a line does not count for whether it is one of a recipe. -/
theorem IsSpaced.isRecipe_iff (h : IsSpaced line spaced) : IsRecipe spaced ↔ IsRecipe line := by
  rcases h with rfl | rfl
  · rfl
  · cases line <;> simp [IsRecipe]

/-- A space behind a line does not count for what it says. -/
theorem IsSpaced.classify_eq (h : IsSpaced line spaced) : classify spaced = classify line := by
  rcases h with rfl | rfl
  · rfl
  · exact classify_append_space line

/-- A space behind a line does not count for how its comment is read. -/
theorem IsSpaced.isMisread_iff (h : IsSpaced line spaced) :
    IsMisread spaced comment before after ↔ IsMisread line comment before after := by
  have hrecipe := h.isRecipe_iff
  rcases h with rfl | rfl
  · rfl
  have hidle : IsIdle (line ++ [' ']) ↔ IsIdle line := by
    rw [IsIdle, IsIdle, hrecipe, Text.trim_append_of_blank line (by decide)]
  have hassignment : IsAssignment (commented (line ++ [' ']) before) after ↔
      IsAssignment (commented line before) after := by
    simp [IsAssignment, commented]
  constructor
  · rintro ⟨hsaid, hline, heq, hbefore, hnot⟩
    exact ⟨mt hidle.mpr hsaid, by simpa using hline, heq, hbefore, mt hassignment.mpr hnot⟩
  · rintro ⟨hsaid, hline, heq, hbefore, hnot⟩
    exact ⟨mt hidle.mp hsaid, by simpa using hline, heq, hbefore, mt hassignment.mp hnot⟩

/-- A space behind a line does not count for the targets that are named. -/
theorem IsSpaced.targetsIn_eq (h : IsSpaced line spaced) (before : List Char) :
    targetsIn (commented spaced before) = targetsIn (commented line before) := by
  rcases h with rfl | rfl
  · rfl
  have hwords (line : List Char) : Text.words (commented line before) =
      Text.words line ++ Text.words ('#' :: before) := Text.words_append_cons rfl line _
  rw [targetsIn, targetsIn, hwords, hwords, Text.words_append_of_blank line (by decide)]

end

/-! ### Comments in a text -/

/-- A line of a text ends where the text does, or where a line feed follows. A carriage return
before the line feed belongs to the end. -/
def IsLineEnd (before rest : List Char) : Prop :=
  rest = [] ∨ ['\r', '\n'] <+: rest ∨ ['\n'] <+: rest ∧ before.getLast? ≠ some '\r'

/-- A comment goes on behind the end of its line: it ends in a backslash, or in one with the
carriage return of a line feed that follows. -/
def IsOpen (comment rest : List Char) : Prop :=
  ['\\'] <:+ comment ∨ ['\\', '\r'] <:+ comment ∧ ['\n'] <+: rest

/-- The line that is ended behind a part of a text, with all lines that go on in it. -/
def lineAt (before : List Char) : List Char :=
  (logicalLines (before ++ ['\r', '\n'])).getLast?.getD []

variable {pending : Option (List Char)} {start : List Char}

/-- A line does not go on because something has been joined to it. -/
theorem getLast?_joinedTo_ne (h : start.getLast? ≠ some '\\') :
    (joinedTo pending start).getLast? ≠ some '\\' := by
  cases pending with
  | none => exact h
  | some joined =>
    have hstart : start.takeWhile Text.isBlank ++ Text.trimStart start = start :=
      List.takeWhile_append_dropWhile
    rw [joinedTo, List.append_cons, List.getLast?_append]
    cases hlast : (Text.trimStart start).getLast? with
    | none => simp
    | some c =>
      rw [← hstart, List.getLast?_append, hlast] at h
      exact h

/-- The line that is ended behind a part of a text is what has been joined to the line that has been
started there. -/
theorem IsReached.lineAt_eq {done : List (List Char)} (h : IsReached before done pending start)
    (hbefore : before.getLast? ≠ some '\\') : lineAt before = joinedTo pending start := by
  have hstart : start.getLast? ≠ some '\\' := mt h.getLast?_eq hbefore
  have hfeed : '\n' ∉ start ++ ['\r'] := by simp [h.notMem]
  have hlines : Text.lines (start ++ ['\r', '\n']) = [start] := by
    rw [show start ++ ['\r', '\n'] = start ++ ['\r'] ++ '\n' :: [] by simp,
      Text.lines_append_cons hfeed, Text.ended_append_return]
    rfl
  rw [lineAt, h.logicalLines_append, hlines, joinFrom_closed (getLast?_joinedTo_ne hstart)]
  simp [joinFrom]

/-- A comment is joined with the line that it stands behind. Where nothing but a blank is left of
the last part of this line, the comment stands behind the rest. -/
theorem exists_joinedTo_commented (pending : Option (List Char)) (start : List Char) :
    ∃ line, IsSpaced line (joinedTo pending start) ∧
      ∀ comment, joinedTo pending (commented start comment) = commented line comment := by
  cases pending with
  | none => exact ⟨start, Or.inl rfl, fun _ => rfl⟩
  | some joined =>
    by_cases hblank : Text.trimStart start = []
    · refine ⟨joined, Or.inr (by rw [joinedTo, hblank]), fun comment => ?_⟩
      rw [joinedTo, commented,
        Text.trimStart_append_of_blank (Text.trimStart_eq_nil_iff.mp hblank)]
      rfl
    · refine ⟨joined ++ ' ' :: Text.trimStart start, Or.inl rfl, fun comment => ?_⟩
      rw [joinedTo, commented, Text.trimStart_append hblank]
      simp [commented]

/-- What a line has of a comment: all of it, unless a carriage return at its end belongs to the end
of the line. -/
def IsShownAs (comment rest shown : List Char) : Prop :=
  comment = shown ∨ comment = shown ++ ['\r'] ∧ ['\n'] <+: rest

section

variable {shown : List Char} (h : IsShownAs comment rest shown)
include h

/-- A line with a comment that does not go on does not go on. -/
theorem IsShownAs.getLast?_commented_ne (hcomment : ¬ IsOpen comment rest) (line : List Char) :
    (commented line shown).getLast? ≠ some '\\' := by
  have hlast : shown.getLast? ≠ some '\\' := by
    intro hlast
    obtain ⟨text, htext⟩ := List.getLast?_eq_some_iff.mp hlast
    refine hcomment ?_
    rcases h with rfl | ⟨rfl, hrest⟩
    · exact Or.inl ⟨text, htext.symm⟩
    · exact Or.inr ⟨⟨text, by simp [htext]⟩, hrest⟩
  rw [commented, List.append_cons, List.append_cons, List.getLast?_append]
  cases hshow : shown.getLast? with
  | none => simp
  | some c => simpa [hshow] using hlast

/-- A line says with what it has of a comment what it says with the comment. -/
theorem IsShownAs.classify_commented_eq (hrecipe : ¬ IsRecipe line) :
    classify (commented line shown) = classify (commented line comment) := by
  refine classify_congr (mt isRecipe_commented_iff.mp hrecipe)
    (mt isRecipe_commented_iff.mp hrecipe) ?_
  rcases h with rfl | ⟨rfl, -⟩
  · rfl
  · rw [← Text.trim_append_of_blank (commented line shown) (show Text.AreBlank ['\r'] by decide)]
    simp [commented]

end

/-- The lines behind a part of a text at the end of a line, with and without a comment there. -/
theorem exists_lines_commented (hend : IsLineEnd before rest)
    (hreturn : start.getLast? = some '\r' → before.getLast? = some '\r') (hstart : '\n' ∉ start)
    (hfeed : '\n' ∉ comment) : ∃ shown more,
      Text.lines (commented start comment ++ rest) = commented start shown :: more ∧
      (Text.lines (start ++ rest) = start :: more ∨
        Text.lines (start ++ rest) = [] ∧ start = [] ∧ more = []) ∧
      IsShownAs comment rest shown := by
  have hwhole : '\n' ∉ commented start comment := by simp [commented, hstart, hfeed]
  rcases hend with rfl | ⟨more, rfl⟩ | ⟨⟨more, rfl⟩, hbefore⟩
  · refine ⟨comment, [], ?_, ?_, Or.inl rfl⟩
    · rw [List.append_nil, Text.lines_of_notMem hwhole (by simp [commented])]
    · rw [List.append_nil]
      by_cases hnil : start = []
      · subst hnil
        exact Or.inr ⟨rfl, rfl, rfl⟩
      · exact Or.inl (Text.lines_of_notMem hstart hnil)
  · have hended {line : List Char} (hline : '\n' ∉ line) :
        Text.lines (line ++ (['\r', '\n'] ++ more)) = line :: Text.lines more := by
      rw [show line ++ (['\r', '\n'] ++ more) = line ++ ['\r'] ++ '\n' :: more by simp,
        Text.lines_append_cons (by simp [hline]), Text.ended_append_return]
    exact ⟨comment, Text.lines more, hended hwhole, Or.inl (hended hstart), Or.inl rfl⟩
  · have hstart' : Text.ended start = start := Text.ended_of_getLast?_ne (mt hreturn hbefore)
    have hmark := Text.ended_append_cons [] (c := '#') (by decide) comment
    rw [List.nil_append, List.nil_append] at hmark
    have hcommented : Text.ended (commented start comment) = commented start (Text.ended comment) := by
      rw [commented, Text.ended_append_cons start (by decide), hmark, commented]
    refine ⟨Text.ended comment, Text.lines more, ?_, Or.inl ?_, ?_⟩
    · rw [List.singleton_append, Text.lines_append_cons hwhole, hcommented]
    · rw [List.singleton_append, Text.lines_append_cons hstart, hstart']
    · by_cases hlast : comment.getLast? = some '\r'
      · obtain ⟨shown, rfl⟩ := List.getLast?_eq_some_iff.mp hlast
        exact Or.inr ⟨by rw [Text.ended_append_return], ⟨more, rfl⟩⟩
      · exact Or.inl (Text.ended_of_getLast?_ne hlast).symm

/-- A comment at the end of a line changes what this one line says, and nothing else that the text
says. -/
theorem exists_statements_commented (hend : IsLineEnd before rest)
    (hbefore : before.getLast? ≠ some '\\') (hrecipe : ¬ IsRecipe (lineAt before))
    (hfeed : '\n' ∉ comment) (hcomment : ¬ IsOpen comment rest) :
    ∃ line first last, IsSpaced line (lineAt before) ∧
      statements (before ++ rest) =
        first ++ ([classify (lineAt before)].filter (· ≠ .nothing) ++ last) ∧
      statements (commented before comment ++ rest) =
        first ++ ([classify (commented line comment)].filter (· ≠ .nothing) ++ last) := by
  obtain ⟨done, pending, start, hreached⟩ := exists_isReached before
  obtain ⟨line, hline, hjoined⟩ := exists_joinedTo_commented pending start
  obtain ⟨shown, more, hlines, hplain, hshown⟩ :=
    exists_lines_commented hend hreached.getLast?_eq hreached.notMem hfeed
  rw [hreached.lineAt_eq hbefore] at hrecipe ⊢
  have hstart : (joinedTo pending start).getLast? ≠ some '\\' :=
    getLast?_joinedTo_ne (mt hreached.getLast?_eq hbefore)
  have hclosed : (joinedTo pending (commented start shown)).getLast? ≠ some '\\' := by
    rw [hjoined]
    exact hshown.getLast?_commented_ne hcomment line
  have hsaid : classify (joinedTo pending (commented start shown)) =
      classify (commented line comment) := by
    rw [hjoined]
    exact hshown.classify_commented_eq (mt hline.isRecipe_iff.mpr hrecipe)
  have hwhole : commented before comment ++ rest = before ++ (' ' :: '#' :: comment ++ rest) := by
    simp [commented]
  have hrest : start ++ (' ' :: '#' :: comment ++ rest) = commented start comment ++ rest := by
    simp [commented]
  refine ⟨line, (done.map classify).filter (· ≠ .nothing),
    ((joinFrom none more).map classify).filter (· ≠ .nothing), hline, ?_, ?_⟩
  · rw [statements, hreached.logicalLines_append, List.map_append, List.filter_append]
    congr 1
    rcases hplain with hplain | ⟨hplain, rfl, rfl⟩
    · rw [hplain, joinFrom_closed hstart, List.map_cons, ← List.singleton_append,
        List.filter_append]
    · -- At the end of the text, the line may have no part of its own.
      rw [hplain]
      cases pending with
      | none => rfl
      | some joined =>
        have hspace : joinedTo (some joined) [] = joined ++ [' '] := rfl
        simp [joinFrom, hspace, classify_append_space]
  · rw [hwhole, statements, hreached.logicalLines_append, hrest, hlines, joinFrom_closed hclosed,
      List.map_append, List.filter_append, List.map_cons, hsaid, ← List.singleton_append,
      List.filter_append]

/-- What is named on a rule of a text is a target. -/
theorem mem_keys_of_mem_statements {text : String} {names prerequisites : List (List Char)}
    (h : .rule names prerequisites ∈ statements text.toList) :
    ∃ fields, parse text = .object fields ∧
      ∀ name ∈ names, String.ofList name ∈ Entries.keys fields := by
  refine ⟨_, rfl, fun name hname => ?_⟩
  have hmentioned : name ∈ mentioned ((logicalLines text.toList).map classify) :=
    List.mem_flatMap.mpr ⟨_, List.mem_of_mem_filter h, hname⟩
  rw [targets_eq, table, List.map_map, Entries.keys, List.map_map]
  exact List.mem_map_of_mem (f := String.ofList) (List.mem_eraseDups.mpr hmentioned)

/-- A comment behind a line, other than a line of a recipe, does not change the targets of a
Makefile, unless it is misread. Where it is, a line that was no rule is read as one, and the words of
the line and of the comment up to its colon are targets. -/
theorem parse_commented {before comment rest : String} (hend : IsLineEnd before.toList rest.toList)
    (hbefore : before.toList.getLast? ≠ some '\\') (hrecipe : ¬ IsRecipe (lineAt before.toList))
    (hfeed : '\n' ∉ comment.toList) (hcomment : ¬ IsOpen comment.toList rest.toList) :
    ((∀ first second, ¬ IsMisread (lineAt before.toList) comment.toList first second) →
      parse (before ++ " #" ++ comment ++ rest) = parse (before ++ rest)) ∧
    ∀ first second, IsMisread (lineAt before.toList) comment.toList first second →
      ∃ earlier later fields, statements (before ++ rest).toList = earlier ++ .other :: later ∧
        statements (before ++ " #" ++ comment ++ rest).toList =
          earlier ++ .rule (targetsIn (commented (lineAt before.toList) first))
            (Text.words (prerequisitePart second)) :: later ∧
        parse (before ++ " #" ++ comment ++ rest) = .object fields ∧
        ∀ name ∈ targetsIn (commented (lineAt before.toList) first),
          String.ofList name ∈ Entries.keys fields := by
  obtain ⟨line, earlier, later, hline, hplain, hcommented⟩ :=
    exists_statements_commented hend hbefore hrecipe hfeed hcomment
  have htext : (before ++ " #" ++ comment ++ rest).toList =
      commented before.toList comment.toList ++ rest.toList := by
    simp [commented]
  have hrecipe' : ¬ IsRecipe line := mt hline.isRecipe_iff.mpr hrecipe
  constructor
  · intro hnone
    refine parse_congr ?_
    have hsame := classify_commented hrecipe' fun first second =>
      mt hline.isMisread_iff.mpr (hnone first second)
    rw [htext, hcommented, hsame, ← hline.classify_eq, ← hplain, String.toList_append]
  · intro first second hread
    have hread' := hline.isMisread_iff.mp hread
    have hother : classify line = .other :=
      (reads_iff.mp (reads_other hrecipe' hread'.not_isIdle hread'.notMem_line)).symm
    rw [hline.classify_eq, hother] at hplain
    rw [← reads_iff.mp (hread'.reads hrecipe'), ← hline.targetsIn_eq] at hcommented
    have hrule : .rule (targetsIn (commented (lineAt before.toList) first))
        (Text.words (prerequisitePart second)) ∈
          statements (before ++ " #" ++ comment ++ rest).toList := by
      rw [htext, hcommented]
      simp
    obtain ⟨fields, hparse, hkeys⟩ := mem_keys_of_mem_statements hrule
    refine ⟨earlier, later, fields, ?_, ?_, hparse, hkeys⟩
    · rw [String.toList_append, hplain]
      rfl
    · rw [htext, hcommented]
      rfl

instance (line : List Char) : Decidable (IsRecipe line) :=
  inferInstanceAs (Decidable (line.head? = some '\t'))

instance (before rest : List Char) : Decidable (IsLineEnd before rest) :=
  inferInstanceAs (Decidable (_ ∨ _ ∨ _ ∧ _))

instance (comment rest : List Char) : Decidable (IsOpen comment rest) :=
  inferInstanceAs (Decidable (_ ∨ _ ∧ _))

/-- A comment behind the prerequisites of a rule, with all the signs that have a meaning in a rule,
is not read. -/
theorem parse_commented_prerequisites :
    IsLineEnd "all: one \\\n  two".toList "\n\tcc\n".toList ∧
      "all: one \\\n  two".toList.getLast? ≠ some '\\' ∧
      ¬ IsRecipe (lineAt "all: one \\\n  two".toList) ∧ '\n' ∉ " it: = ; all".toList ∧
      ¬ IsOpen " it: = ; all".toList "\n\tcc\n".toList ∧
      parse ("all: one \\\n  two" ++ " #" ++ " it: = ; all" ++ "\n\tcc\n") =
        parse ("all: one \\\n  two" ++ "\n\tcc\n") ∧
      parse ("all: one \\\n  two" ++ "\n\tcc\n") =
        .object [("all", .object [("dependencies", .string "one two"),
          ("contents", .string "cc")])] := by
  have hend : IsLineEnd "all: one \\\n  two".toList "\n\tcc\n".toList := by decide
  have hrecipe : ¬ IsRecipe (lineAt "all: one \\\n  two".toList) := by decide
  have hcolon : ':' ∈ lineAt "all: one \\\n  two".toList := by decide
  have hcomment : ¬ IsOpen " it: = ; all".toList "\n\tcc\n".toList := by decide
  exact ⟨hend, by decide, hrecipe, by decide, hcomment,
    (parse_commented hend (by decide) hrecipe (by decide) hcomment).1 fun _ _ h =>
      h.notMem_line hcolon, rfl⟩

/-- A comment with a colon behind a line without one is read as a rule. -/
theorem not_parse_commented_directive :
    IsLineEnd "include common.mk".toList "\n".toList ∧
      "include common.mk".toList.getLast? ≠ some '\\' ∧
      ¬ IsRecipe (lineAt "include common.mk".toList) ∧ '\n' ∉ " see: docs".toList ∧
      ¬ IsOpen " see: docs".toList "\n".toList ∧
      parse ("include common.mk" ++ " #" ++ " see: docs" ++ "\n") ≠
        parse ("include common.mk" ++ "\n") := by
  have hplain : parse ("include common.mk" ++ "\n") = .object [] := rfl
  have hcommented : parse ("include common.mk" ++ " #" ++ " see: docs" ++ "\n") =
      .object (["include", "common.mk", "#", "see"].map fun name =>
        (name, .object [("dependencies", .string "docs"), ("contents", .string "")])) := rfl
  refine ⟨by decide, by decide, by decide, by decide, by decide, ?_⟩
  rw [hplain, hcommented]
  simp

end Conventions.Makefile
