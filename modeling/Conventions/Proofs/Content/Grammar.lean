import Conventions.Content.Query
import Conventions.Proofs.Except

/-!
# The grammar of queries

Which texts are queries is told here by what they are put together from: segments between dots, a
segment being a key with its indexes, and a key being written as it is or in quotes. The reader
accepts just these texts, and what it gives are the steps that they are put together from. So a text
can be read in one way only.
-/

namespace Conventions.Query

/-! ### The grammar -/

namespace Grammar

/-- What stands between the quotes of a key, and the characters of the key. A backslash takes the
next character as it is. -/
inductive Quoted : List Char → List Char → Prop
  | nothing : Quoted [] []
  | plain {c : Char} {written name : List Char} (hquote : c ≠ '"') (hbackslash : c ≠ '\\')
      (h : Quoted written name) : Quoted (c :: written) (c :: name)
  | escaped (c : Char) {written name : List Char} (h : Quoted written name) :
      Quoted ('\\' :: c :: written) (c :: name)

/-- A character that can be in a key without quotes. -/
def IsPlain (c : Char) : Prop := c ≠ '.' ∧ c ≠ '[' ∧ c ≠ ']' ∧ c ≠ '"'

/-- A key, written as it is or in quotes. Only a key in quotes can be empty. -/
inductive Key : List Char → String → Prop
  | plain {name : List Char} (hne : name ≠ []) (hplain : ∀ c ∈ name, IsPlain c) :
      Key name (String.ofList name)
  | quoted {written name : List Char} (h : Quoted written name) :
      Key ('"' :: (written ++ ['"'])) (String.ofList name)

/-- An index: decimal digits in brackets, at least one, for a number that fits in 64 bits. -/
inductive Index : List Char → Nat → Prop
  | digits {digits : List Char} (hne : digits ≠ []) (hdigits : ∀ d ∈ digits, d.isDigit = true)
      (hbound : Nat.ofDigitChars 10 digits 0 < UInt64.size) :
      Index ('[' :: (digits ++ [']'])) (Nat.ofDigitChars 10 digits 0)

/-- Any number of indexes. -/
inductive Indexes : List Char → List Step → Prop
  | nil : Indexes [] []
  | cons {written rest : List Char} {position : Nat} {steps : List Step}
      (h : Index written position) (hrest : Indexes rest steps) :
      Indexes (written ++ rest) (.index position :: steps)

/-- A key with its indexes. -/
inductive Segment : List Char → List Step → Prop
  | key {written rest : List Char} {name : String} {steps : List Step} (h : Key written name)
      (hrest : Indexes rest steps) : Segment (written ++ rest) (.key name :: steps)

/-- The first segment, which can also be indexes alone. -/
inductive First : List Char → List Step → Prop
  | segment {written : List Char} {steps : List Step} (h : Segment written steps) :
      First written steps
  | indexes {written : List Char} {steps : List Step} (h : Indexes written steps)
      (hne : steps ≠ []) : First written steps

/-- Further segments, each behind a dot. -/
inductive Further : List Char → List Step → Prop
  | nil : Further [] []
  | cons {written rest : List Char} {steps more : List Step} (h : Segment written steps)
      (hrest : Further rest more) : Further ('.' :: (written ++ rest)) (steps ++ more)

/-- A query: its first segment and further ones. -/
inductive Text : List Char → List Step → Prop
  | segments {written rest : List Char} {steps more : List Step} (h : First written steps)
      (hrest : Further rest more) : Text (written ++ rest) (steps ++ more)

end Grammar

open Grammar

variable {place next : Place} {c : Char} {text written rest : List Char}
  {added steps more : List Step}

/-! ### Reading character by character -/

/-- A character that is accepted adds its steps to those of the rest. -/
theorem readFrom_cons (h : advance place c = .ok (next, added)) (rest : List Char) :
    readFrom place (c :: rest) = (readFrom next rest).map (added ++ ·) := by
  rw [readFrom, h]
  change (readFrom next rest >>= fun more => pure (added ++ more)) = _
  cases readFrom next rest <;> rfl

/-- A character that completes no step leaves those of the rest. -/
theorem readFrom_cons_of_nil (h : advance place c = .ok (next, [])) (rest : List Char) :
    readFrom place (c :: rest) = readFrom next rest := by
  rw [readFrom_cons h]
  cases readFrom next rest <;> rfl

/-- The index that digits stand for is their number, if there are any and it is below the bound. -/
theorem indexOf?_eq_some_iff {digits : List Char} {position : Nat} :
    indexOf? digits = some position ↔ digits ≠ [] ∧
      Nat.ofDigitChars 10 digits.reverse 0 < UInt64.size ∧
      position = Nat.ofDigitChars 10 digits.reverse 0 := by
  have hvalue : digitsValue digits.reverse = Nat.ofDigitChars 10 digits.reverse 0 := rfl
  have hbound : indexBound = UInt64.size := rfl
  simp only [indexOf?, hvalue, hbound]
  split
  · next hcond =>
    simp only [Bool.or_eq_true, List.isEmpty_iff, decide_eq_true_eq] at hcond
    constructor
    · intro h
      cases h
    · rintro ⟨hne, hlt, -⟩
      rcases hcond with hempty | hle
      · exact absurd hempty hne
      · omega
  · next hcond =>
    simp only [Bool.or_eq_true, List.isEmpty_iff, decide_eq_true_eq, not_or, Nat.not_le] at hcond
    obtain ⟨hne, hlt⟩ := hcond
    rw [Option.some.injEq, eq_comm]
    exact ⟨fun heq => ⟨hne, hlt, heq⟩, fun ⟨_, _, heq⟩ => heq⟩

/-! ### What the grammar has is read -/

/-- What stands between quotes is read up to the closing one. -/
theorem readFrom_quoted {name : List Char} (h : Quoted written name) (chars rest : List Char) :
    readFrom (.quotedKey chars) (written ++ '"' :: rest) =
      (readFrom .closed rest).map ([keyStep (name.reverse ++ chars)] ++ ·) := by
  induction h generalizing chars with
  | nothing => exact readFrom_cons rfl rest
  | @plain c written name hquote hbackslash _ ih =>
    have hplain : advance (.quotedKey chars) c = .ok (.quotedKey (c :: chars), []) := by
      simp [advance, hquote, hbackslash]
    rw [List.cons_append, readFrom_cons_of_nil hplain, ih]
    simp
  | escaped c _ ih =>
    have hescape : advance (.quotedKey chars) '\\' = .ok (.escape chars, []) := rfl
    rw [List.cons_append, List.cons_append, readFrom_cons_of_nil hescape,
      readFrom_cons_of_nil rfl, ih]
    simp

/-- Plain characters go on with a plain key. -/
theorem readFrom_plain {plain : List Char} (h : ∀ c ∈ plain, IsPlain c) (chars rest : List Char) :
    readFrom (.plainKey chars) (plain ++ rest) =
      readFrom (.plainKey (plain.reverse ++ chars)) rest := by
  induction plain generalizing chars with
  | nil => rfl
  | cons c plain ih =>
    obtain ⟨⟨hdot, hopen, hclose, hquote⟩, hplain⟩ := List.forall_mem_cons.mp h
    have hadvance : advance (.plainKey chars) c = .ok (.plainKey (c :: chars), []) := by
      simp [advance, hdot, hopen, hclose, hquote]
    rw [List.cons_append, readFrom_cons_of_nil hadvance, ih hplain]
    simp

/-- The text ends, or goes on with a dot or an opening bracket, where a plain key ends. -/
def StopsKey (text : List Char) : Prop := ∀ c ∈ text.head?, c = '.' ∨ c = '['

/-- A plain key ends where the text stops it. -/
theorem readFrom_plainKey_of_stopsKey (h : StopsKey rest) (chars : List Char) :
    readFrom (.plainKey chars) rest = (readFrom .closed rest).map ([keyStep chars] ++ ·) := by
  cases rest with
  | nil => rfl
  | cons c rest =>
    rcases h c rfl with rfl | rfl
    · have hdot : advance .closed '.' = .ok (.segment, []) := rfl
      rw [readFrom_cons rfl, readFrom_cons_of_nil hdot]
    · have hbracket : advance .closed '[' = .ok (.index [], []) := rfl
      rw [readFrom_cons rfl, readFrom_cons_of_nil hbracket]

/-- A segment can start here, at the start of the text or behind a dot. -/
def Place.StartsSegment (place : Place) : Prop := place = .start ∨ place = .segment

/-- Where a segment can start, a key is read up to what follows it. -/
theorem readFrom_key {name : String} (hplace : place.StartsSegment) (h : Key written name)
    (hstops : StopsKey rest) :
    readFrom place (written ++ rest) = (readFrom .closed rest).map ([.key name] ++ ·) := by
  cases h with
  | @plain name hne hplain =>
    obtain ⟨c, chars, rfl⟩ := List.exists_cons_of_ne_nil hne
    obtain ⟨⟨hdot, hopen, hclose, hquote⟩, hchars⟩ := List.forall_mem_cons.mp hplain
    have hadvance : advance place c = .ok (.plainKey [c], []) := by
      rcases hplace with rfl | rfl <;> simp [advance, hdot, hopen, hclose, hquote]
    have hkey : keyStep (chars.reverse ++ [c]) = .key (String.ofList (c :: chars)) := by
      simp [keyStep]
    rw [List.cons_append, readFrom_cons_of_nil hadvance, readFrom_plain hchars,
      readFrom_plainKey_of_stopsKey hstops, hkey]
  | @quoted written name hquoted =>
    have hadvance : advance place '"' = .ok (.quotedKey [], []) := by
      rcases hplace with rfl | rfl <;> rfl
    have hkey : keyStep (name.reverse ++ []) = .key (String.ofList name) := by simp [keyStep]
    rw [List.cons_append, List.append_assoc, readFrom_cons_of_nil hadvance, List.singleton_append,
      readFrom_quoted hquoted, hkey]

/-- Digits go on with an index. -/
theorem readFrom_digits {digits : List Char} (h : ∀ d ∈ digits, d.isDigit = true)
    (sofar rest : List Char) :
    readFrom (.index sofar) (digits ++ rest) =
      readFrom (.index (digits.reverse ++ sofar)) rest := by
  induction digits generalizing sofar with
  | nil => rfl
  | cons d digits ih =>
    obtain ⟨hd, hdigits⟩ := List.forall_mem_cons.mp h
    have hbracket : d ≠ ']' := by
      rintro rfl
      cases hd
    have hadvance : advance (.index sofar) d = .ok (.index (d :: sofar), []) := by
      have hdigit : isDigit d = true := hd
      simp [advance, hbracket, hdigit]
    rw [List.cons_append, readFrom_cons_of_nil hadvance, ih hdigits]
    simp

/-- Where an index can start, an index is read. -/
theorem readFrom_index {position : Nat} (hplace : advance place '[' = .ok (.index [], []))
    (h : Index written position) (rest : List Char) :
    readFrom place (written ++ rest) = (readFrom .closed rest).map ([.index position] ++ ·) := by
  cases h with
  | @digits digits hne hdigits hbound =>
    have hindex : indexOf? (digits.reverse ++ []) = some (Nat.ofDigitChars 10 digits 0) := by
      rw [List.append_nil, indexOf?_eq_some_iff, List.reverse_reverse]
      exact ⟨by simpa using hne, hbound, rfl⟩
    have hclose : advance (.index (digits.reverse ++ [])) ']' =
        .ok (.closed, [.index (Nat.ofDigitChars 10 digits 0)]) := by
      simp only [advance, hindex, if_pos]
    rw [List.cons_append, List.append_assoc, readFrom_cons_of_nil hplace, readFrom_digits hdigits,
      List.singleton_append, readFrom_cons hclose]

/-- Indexes are read one by one. -/
theorem readFrom_indexes (h : Indexes written steps) (rest : List Char) :
    readFrom .closed (written ++ rest) = (readFrom .closed rest).map (steps ++ ·) := by
  induction h with
  | nil => cases hrest : readFrom .closed rest <;> simp [hrest, Except.map]
  | cons hindex _ ih =>
    rw [List.append_assoc, readFrom_index rfl hindex, ih]
    cases readFrom .closed rest <;> rfl

/-- Indexes and further segments stop a plain key. -/
theorem stopsKey_append (h : Indexes written steps) (hrest : Further rest more) :
    StopsKey (written ++ rest) := by
  intro c hc
  cases h with
  | nil =>
    cases hrest with
    | nil => cases hc
    | cons =>
      cases hc
      exact Or.inl rfl
  | cons hindex _ =>
    cases hindex
    cases hc
    exact Or.inr rfl

/-- Where a segment can start, a segment is read up to further ones. -/
theorem readFrom_segment (hplace : place.StartsSegment) (h : Segment written steps)
    (hrest : Further rest more) :
    readFrom place (written ++ rest) = (readFrom .closed rest).map (steps ++ ·) := by
  cases h with
  | key hkey hindexes =>
    rw [List.append_assoc, readFrom_key hplace hkey (stopsKey_append hindexes hrest),
      readFrom_indexes hindexes]
    cases readFrom .closed rest <;> rfl

/-- Further segments are read up to the end of the text. -/
theorem readFrom_further (h : Further text steps) : readFrom .closed text = .ok steps := by
  induction h with
  | nil => rfl
  | cons hsegment hrest ih =>
    have hdot : advance .closed '.' = .ok (.segment, []) := rfl
    rw [readFrom_cons_of_nil hdot, readFrom_segment (Or.inr rfl) hsegment hrest, ih]
    rfl

/-- A text of the grammar is read as its steps. -/
theorem readFrom_start (h : Grammar.Text text steps) : readFrom .start text = .ok steps := by
  cases h with
  | segments hfirst hrest =>
    cases hfirst with
    | segment hsegment =>
      rw [readFrom_segment (Or.inl rfl) hsegment hrest, readFrom_further hrest]
      rfl
    | indexes hindexes hne =>
      cases hindexes with
      | nil => exact absurd rfl hne
      | cons hindex hindexes =>
        rw [List.append_assoc, readFrom_index rfl hindex, readFrom_indexes hindexes,
          readFrom_further hrest]
        rfl

/-! ### What is read is in the grammar -/

/-- What can follow a key or an index: further indexes and then further segments. -/
inductive Behind : List Char → List Step → Prop
  | append {written rest : List Char} {steps more : List Step} (h : Indexes written steps)
      (hrest : Further rest more) : Behind (written ++ rest) (steps ++ more)

/-- An index behind which others can follow can follow itself. -/
theorem Behind.index {position : Nat} (h : Index written position) (hrest : Behind rest steps) :
    Behind (written ++ rest) (.index position :: steps) := by
  cases hrest with
  | append hindexes hfurther =>
    rw [← List.append_assoc, ← List.cons_append]
    exact .append (.cons h hindexes) hfurther

/-- A key and what follows it are further segments. -/
theorem Behind.further {name : String} (h : Key written name) (hrest : Behind rest steps) :
    Further ('.' :: (written ++ rest)) (.key name :: steps) := by
  cases hrest with
  | append hindexes hfurther =>
    rw [← List.append_assoc, ← List.cons_append]
    exact .cons (.key h hindexes) hfurther

/-- A key and what follows it are a query. -/
theorem Behind.text_of_key {name : String} (h : Key written name) (hrest : Behind rest steps) :
    Grammar.Text (written ++ rest) (.key name :: steps) := by
  cases hrest with
  | append hindexes hfurther =>
    rw [← List.append_assoc, ← List.cons_append]
    exact .segments (.segment (.key h hindexes)) hfurther

/-- An index and what follows it are a query. -/
theorem Behind.text_of_index {position : Nat} (h : Index written position)
    (hrest : Behind rest steps) :
    Grammar.Text (written ++ rest) (.index position :: steps) := by
  cases hrest with
  | append hindexes hfurther =>
    rw [← List.append_assoc, ← List.cons_append]
    exact .segments (.indexes (.cons h hindexes) (List.cons_ne_nil _ _)) hfurther

/-- What can follow in a place of the reader, with the steps that are still to come. -/
inductive Continues : Place → List Char → List Step → Prop
  | start {text : List Char} {steps : List Step} (h : Grammar.Text text steps) :
      Continues .start text steps
  | segment {written rest : List Char} {name : String} {steps : List Step} (h : Key written name)
      (hrest : Behind rest steps) : Continues .segment (written ++ rest) (.key name :: steps)
  | plainKey {chars plain rest : List Char} {steps : List Step} (h : ∀ c ∈ plain, IsPlain c)
      (hrest : Behind rest steps) :
      Continues (.plainKey chars) (plain ++ rest) (keyStep (plain.reverse ++ chars) :: steps)
  | quotedKey {chars written name rest : List Char} {steps : List Step} (h : Quoted written name)
      (hrest : Behind rest steps) : Continues (.quotedKey chars) (written ++ '"' :: rest)
        (keyStep (name.reverse ++ chars) :: steps)
  | escape (c : Char) {chars written name rest : List Char} {steps : List Step}
      (h : Quoted written name) (hrest : Behind rest steps) :
      Continues (.escape chars) (c :: (written ++ '"' :: rest))
        (keyStep (name.reverse ++ c :: chars) :: steps)
  | index {sofar digits rest : List Char} {position : Nat} {steps : List Step}
      (h : ∀ d ∈ digits, d.isDigit = true)
      (hposition : indexOf? (digits.reverse ++ sofar) = some position)
      (hrest : Behind rest steps) :
      Continues (.index sofar) (digits ++ ']' :: rest) (.index position :: steps)
  | closed {rest : List Char} {steps : List Step} (hrest : Behind rest steps) :
      Continues .closed rest steps

/-- Nothing has to follow a key or an index. -/
theorem Behind.nil : Behind [] [] := .append .nil .nil

/-- Where the text may end, nothing has to follow. -/
theorem continues_of_finish (h : finish place = .ok steps) : Continues place [] steps := by
  cases place with
  | plainKey chars =>
    cases h
    exact @Continues.plainKey chars [] [] [] (by simp) .nil
  | closed =>
    cases h
    exact .closed .nil
  | _ => cases h

/-- The characters that are accepted in a place, with the next place and the steps that they
complete. -/
inductive Moves : Place → Char → Place → List Step → Prop
  | openQuote {place : Place} (h : place.StartsSegment) : Moves place '"' (.quotedKey []) []
  | openKey {place : Place} {c : Char} (h : place.StartsSegment) (hplain : IsPlain c) :
      Moves place c (.plainKey [c]) []
  | firstIndex : Moves .start '[' (.index []) []
  | plain {chars : List Char} {c : Char} (hplain : IsPlain c) :
      Moves (.plainKey chars) c (.plainKey (c :: chars)) []
  | keyThenDot {chars : List Char} : Moves (.plainKey chars) '.' .segment [keyStep chars]
  | keyThenIndex {chars : List Char} : Moves (.plainKey chars) '[' (.index []) [keyStep chars]
  | quoted {chars : List Char} {c : Char} (hquote : c ≠ '"') (hbackslash : c ≠ '\\') :
      Moves (.quotedKey chars) c (.quotedKey (c :: chars)) []
  | backslash {chars : List Char} : Moves (.quotedKey chars) '\\' (.escape chars) []
  | closeQuote {chars : List Char} : Moves (.quotedKey chars) '"' .closed [keyStep chars]
  | escaped {chars : List Char} (c : Char) : Moves (.escape chars) c (.quotedKey (c :: chars)) []
  | digit {digits : List Char} {c : Char} (hdigit : c.isDigit = true) :
      Moves (.index digits) c (.index (c :: digits)) []
  | closeIndex {digits : List Char} {position : Nat} (h : indexOf? digits = some position) :
      Moves (.index digits) ']' .closed [.index position]
  | nextIndex : Moves .closed '[' (.index []) []
  | nextSegment : Moves .closed '.' .segment []

/-- The reader accepts no other characters. -/
theorem moves_of_advance (h : advance place c = .ok (next, added)) : Moves place c next added := by
  cases place with
  | start =>
    simp only [advance] at h
    split_ifs at h with hquote hopen hdot hclose
    · cases h
      exact hquote ▸ .openQuote (Or.inl rfl)
    · cases h
      exact hopen ▸ .firstIndex
    · cases h
      exact .openKey (Or.inl rfl) ⟨hdot, hopen, hclose, hquote⟩
  | segment =>
    simp only [advance] at h
    split_ifs at h with hquote hempty hclose
    · cases h
      exact hquote ▸ .openQuote (Or.inr rfl)
    · cases h
      obtain ⟨hopen, hdot⟩ := not_or.mp hempty
      exact .openKey (Or.inr rfl) ⟨hdot, hopen, hclose, hquote⟩
  | plainKey chars =>
    simp only [advance] at h
    split_ifs at h with hdot hopen hwrong
    · cases h
      exact hdot ▸ .keyThenDot
    · cases h
      exact hopen ▸ .keyThenIndex
    · cases h
      obtain ⟨hclose, hquote⟩ := not_or.mp hwrong
      exact .plain ⟨hdot, hopen, hclose, hquote⟩
  | quotedKey chars =>
    simp only [advance] at h
    split_ifs at h with hbackslash hquote
    · cases h
      exact hbackslash ▸ .backslash
    · cases h
      exact hquote ▸ .closeQuote
    · cases h
      exact .quoted hquote hbackslash
  | escape chars =>
    cases h
    exact .escaped c
  | index digits =>
    simp only [advance] at h
    split at h
    · next hclose =>
      split at h
      · next position hposition =>
        cases h
        exact hclose ▸ .closeIndex hposition
      · cases h
    · split at h
      · next hdigit =>
        cases h
        exact .digit hdigit
      · cases h
  | closed =>
    simp only [advance] at h
    split_ifs at h with hopen hdot
    · cases h
      exact hopen ▸ .nextIndex
    · cases h
      exact hdot ▸ .nextSegment

/-- A key and what follows it can follow where a segment can start. -/
theorem Continues.of_key {name : String} (hplace : place.StartsSegment) (h : Key written name)
    (hrest : Behind rest steps) : Continues place (written ++ rest) (.key name :: steps) := by
  rcases hplace with rfl | rfl
  · exact .start (hrest.text_of_key h)
  · exact .segment h hrest

/-- The digits of an index up to its bracket are the index. -/
theorem index_of_indexOf? {digits : List Char} {position : Nat}
    (h : ∀ d ∈ digits, d.isDigit = true)
    (hposition : indexOf? (digits.reverse ++ []) = some position) :
    Index ('[' :: (digits ++ [']'])) position := by
  obtain ⟨hne, hbound, rfl⟩ := indexOf?_eq_some_iff.mp hposition
  simp only [List.append_nil, List.reverse_reverse] at hne hbound ⊢
  exact .digits (by simpa using hne) h hbound

/-- What follows an index that is opened here makes the index whole, and something follows it. -/
theorem Continues.exists_index (h : Continues (.index []) rest steps) :
    ∃ written behind position more, Index written position ∧ Behind behind more ∧
      '[' :: rest = written ++ behind ∧ steps = .index position :: more := by
  cases h with
  | index hdigits hposition hbehind =>
    exact ⟨_, _, _, _, index_of_indexOf? hdigits hposition, hbehind, by simp, rfl⟩

/-- What can follow behind a segment or an index, from the opening bracket of the next index on. -/
theorem Continues.behind_of_index (h : Continues (.index []) rest steps) :
    Behind ('[' :: rest) steps := by
  obtain ⟨written, behind, position, more, hindex, hbehind, htext, rfl⟩ := h.exists_index
  rw [htext]
  exact hbehind.index hindex

/-- What can follow behind a segment or an index, from the next dot on. -/
theorem Continues.behind_of_segment (h : Continues .segment rest steps) :
    Behind ('.' :: rest) steps := by
  cases h with
  | segment hkey hbehind => exact .append .nil (hbehind.further hkey)

/-- A character that is accepted can stand before what follows in the next place. -/
theorem Continues.cons (h : Moves place c next added) (hnext : Continues next rest steps) :
    Continues place (c :: rest) (added ++ steps) := by
  cases h with
  | openQuote hplace =>
    cases hnext with
    | @quotedKey _ written name behind more hquoted hbehind =>
      have htext : '"' :: (written ++ '"' :: behind) =
          '"' :: (written ++ ['"']) ++ behind := by simp
      have hkey : keyStep (name.reverse ++ []) = .key (String.ofList name) := by simp [keyStep]
      rw [List.nil_append, htext, hkey]
      exact .of_key hplace (.quoted hquoted) hbehind
  | openKey hplace hplain =>
    cases hnext with
    | @plainKey _ plain behind more hchars hbehind =>
      have hkey : keyStep (plain.reverse ++ [c]) = .key (String.ofList (c :: plain)) := by
        simp [keyStep]
      rw [List.nil_append, hkey, ← List.cons_append]
      exact .of_key hplace
        (.plain (List.cons_ne_nil c plain) (List.forall_mem_cons.mpr ⟨hplain, hchars⟩)) hbehind
  | firstIndex =>
    obtain ⟨written, behind, position, more, hindex, hbehind, htext, rfl⟩ := hnext.exists_index
    rw [htext]
    exact .start (hbehind.text_of_index hindex)
  | @plain chars _ hplain =>
    cases hnext with
    | @plainKey _ plain behind more hchars hbehind =>
      have hall : ∀ d ∈ c :: plain, IsPlain d := List.forall_mem_cons.mpr ⟨hplain, hchars⟩
      have hkey := @Continues.plainKey chars _ _ _ hall hbehind
      rwa [List.reverse_cons, List.append_assoc] at hkey
  | keyThenDot => exact @Continues.plainKey _ [] _ _ (by simp) hnext.behind_of_segment
  | keyThenIndex => exact @Continues.plainKey _ [] _ _ (by simp) hnext.behind_of_index
  | @quoted chars _ hquote hbackslash =>
    cases hnext with
    | @quotedKey _ written name behind more hquoted hbehind =>
      have hkey :=
        @Continues.quotedKey chars _ _ _ _ (.plain hquote hbackslash hquoted) hbehind
      rwa [List.reverse_cons, List.append_assoc] at hkey
  | @backslash chars =>
    cases hnext with
    | @escape d _ written name behind more hquoted hbehind =>
      have hkey := @Continues.quotedKey chars _ _ _ _ (.escaped d hquoted) hbehind
      rwa [List.reverse_cons, List.append_assoc] at hkey
  | closeQuote =>
    cases hnext with
    | closed hbehind => exact .quotedKey .nothing hbehind
  | escaped =>
    cases hnext with
    | quotedKey hquoted hbehind => exact .escape c hquoted hbehind
  | digit hdigit =>
    cases hnext with
    | @index _ digits behind position more hdigits hposition hbehind =>
      have hall : ∀ d ∈ c :: digits, d.isDigit = true :=
        List.forall_mem_cons.mpr ⟨hdigit, hdigits⟩
      refine .index hall ?_ hbehind
      rwa [List.reverse_cons, List.append_assoc]
  | closeIndex hposition =>
    cases hnext with
    | closed hbehind => exact @Continues.index _ [] _ _ _ (by simp) hposition hbehind
  | nextIndex => exact .closed hnext.behind_of_index
  | nextSegment => exact .closed hnext.behind_of_segment

/-- What is read in a place can follow there. -/
theorem continues_of_readFrom (h : readFrom place text = .ok steps) :
    Continues place text steps := by
  induction text generalizing place steps with
  | nil => exact continues_of_finish h
  | cons c rest ih =>
    unfold readFrom at h
    obtain ⟨⟨next, added⟩, hadvance, h⟩ := bind_eq_ok_iff.mp h
    obtain ⟨more, hmore, h⟩ := bind_eq_ok_iff.mp h
    cases h
    exact (ih hmore).cons (moves_of_advance hadvance)

/-- From its start, a text is read as the steps that it has in the grammar, if it has any. -/
theorem readFrom_start_eq_ok_iff : readFrom .start text = .ok steps ↔ Grammar.Text text steps := by
  constructor
  · intro h
    cases continues_of_readFrom h with
    | start htext => exact htext
  · exact readFrom_start

/-- A text has steps in one way only. -/
theorem Grammar.Text.unique (h : Grammar.Text text steps) (h' : Grammar.Text text more) :
    steps = more :=
  Except.ok.inj ((readFrom_start h).symm.trans (readFrom_start h'))

/-! ### The reader and the grammar -/

/-- The steps of a text: none if it is blank, and else those that it has in the grammar. -/
inductive Reads (text : String) : List Step → Prop
  | blank (h : Text.allBlank text.toList = true) : Reads text []
  | query {steps : List Step} (hblank : Text.allBlank text.toList = false)
      (h : Grammar.Text text.toList steps) : Reads text steps

/-- A text has steps in one way only. -/
theorem Reads.unique {text : String} (h : Reads text steps) (h' : Reads text more) :
    steps = more := by
  cases h with
  | blank hblank =>
    cases h' with
    | blank => rfl
    | query hnot =>
      rw [hblank] at hnot
      cases hnot
  | query hnot htext =>
    cases h' with
    | blank hblank =>
      rw [hblank] at hnot
      cases hnot
    | query _ htext' => exact htext.unique htext'

/-- A text is read as the query of its steps, if it has any. -/
theorem parse_eq_ok_iff {text : String} {query : Query} :
    parse text = .ok query ↔ Reads text query.steps := by
  obtain ⟨steps⟩ := query
  unfold parse
  cases hblank : Text.allBlank text.toList with
  | true =>
    rw [if_pos rfl]
    constructor
    · intro h
      cases h
      exact .blank hblank
    · intro h
      obtain rfl := h.unique (.blank hblank)
      rfl
  | false =>
    rw [if_neg Bool.false_ne_true, map_eq_ok_iff]
    constructor
    · rintro ⟨read, hread, hquery⟩
      cases hquery
      exact .query hblank (readFrom_start_eq_ok_iff.mp hread)
    · intro h
      cases h with
      | blank htrue =>
        rw [hblank] at htrue
        cases htrue
      | query _ htext => exact ⟨_, readFrom_start htext, rfl⟩

/-- A text is accepted exactly if it is blank, which is the empty query, or in the grammar, and it
is then read as the steps that it is put together from; there is only one way to do so. Every other
text is an invalid selector. -/
theorem ofText_reads_grammar (text : String) :
    (∀ query, ofText text = .ok query ↔ Reads text query.steps) ∧
      (∀ steps more, Reads text steps → Reads text more → steps = more) ∧
      ((∃ reason, ofText text = .error (.invalidSelector text reason)) ↔
        ¬ ∃ steps, Reads text steps) := by
  refine ⟨fun query => mapError_eq_ok_iff.trans parse_eq_ok_iff,
    fun steps more h h' => h.unique h', ?_⟩
  unfold ofText
  cases hparse : parse text with
  | error problem =>
    refine ⟨fun _ => ?_, fun _ => ⟨problem.text, rfl⟩⟩
    rintro ⟨steps, hreads⟩
    have hsteps : parse text = .ok ⟨steps⟩ := parse_eq_ok_iff.mpr hreads
    rw [hparse] at hsteps
    cases hsteps
  | ok query =>
    constructor
    · rintro ⟨reason, hnever⟩
      cases hnever
    · exact fun hnone => absurd ⟨query.steps, parse_eq_ok_iff.mp hparse⟩ hnone

/-- A text with blanks, dots, quotes and leading zeros in it is read in one way, and one that has an
index behind a dot in none. -/
theorem ofText_reads_grammar_mixed :
    Reads "[3].x y.\"a\\\".b\"[007]" [.index 3, .key "x y", .key "a\".b", .index 7] ∧
      (∀ steps, Reads "[3].x y.\"a\\\".b\"[007]" steps →
        steps = [.index 3, .key "x y", .key "a\".b", .index 7]) ∧
      ¬ ∃ steps, Reads "a.[0]" steps := by
  have hmixed : ofText "[3].x y.\"a\\\".b\"[007]" =
      .ok ⟨[.index 3, .key "x y", .key "a\".b", .index 7]⟩ := by decide +kernel
  have hwrong : ofText "a.[0]" = .error (.invalidSelector "a.[0]" "empty segment") := by
    decide +kernel
  have hreads := ((ofText_reads_grammar _).1 _).mp hmixed
  exact ⟨hreads, fun steps hsteps => (ofText_reads_grammar _).2.1 _ _ hsteps hreads,
    (ofText_reads_grammar _).2.2.mp ⟨_, hwrong⟩⟩

end Conventions.Query
