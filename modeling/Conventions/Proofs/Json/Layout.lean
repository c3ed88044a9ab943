import Conventions.Proofs.Json.Marks
import Conventions.Proofs.Json.Numerals

/-!
# Texts of values are read as these values

A text of a value may have blanks between its parts. The compact text has none, and the indented one
has its line breaks and a blank behind each colon. Wherever the blanks are, the text is read as the
value if the texts of its numbers are.
-/

namespace Conventions.Json

/-! ### Blanks in the text of a value -/

/-- The blanks in the text of a value. -/
structure Spacing where
  /-- In front of each item or field of a list or an object with any, and in front of its end. The
  end is one level further out. -/
  line : Nat → List Char
  /-- Behind a colon. -/
  colon : List Char

/-- Blanks that are passed over. -/
structure Spacing.IsBlank (spacing : Spacing) : Prop where
  line : ∀ level, ∀ c ∈ spacing.line level, IsSpace c
  colon : ∀ c ∈ spacing.colon, IsSpace c

/-- No blanks at all. -/
def Spacing.tight : Spacing := ⟨fun _ => [], []⟩

/-- A line for each item and each field. -/
def Spacing.wide : Spacing := ⟨newLine, [' ']⟩

/-- No blanks are blanks. -/
theorem Spacing.isBlank_tight : Spacing.tight.IsBlank where
  line _ := List.forall_mem_nil _
  colon := List.forall_mem_nil _

/-- Line breaks and indents are blanks. -/
theorem Spacing.isBlank_wide : Spacing.wide.IsBlank where
  line level c hc := by
    rcases List.mem_cons.mp hc with rfl | hc
    · decide
    · rw [List.eq_of_mem_replicate hc]
      decide
  colon := by simp [wide, IsSpace]

mutual

/-- The text of a value that starts at a level. -/
def Spacing.chars (spacing : Spacing) (level : Nat) : Json → List Char
  | null => compactChars null
  | bool value => compactChars (bool value)
  | number value => compactChars (number value)
  | string value => compactChars (string value)
  | array [] => ['[', ']']
  | array (item :: items) =>
    '[' :: (spacing.line (level + 1) ++ (spacing.chars (level + 1) item ++
      spacing.itemsEnd level items))
  | object [] => ['{', '}']
  | object ((key, value) :: fields) =>
    '{' :: (spacing.line (level + 1) ++ (quoted key ++ ':' :: (spacing.colon ++
      (spacing.chars (level + 1) value ++ spacing.fieldsEnd level fields))))

/-- What follows the first item of a list at a level: the other items and the end. -/
def Spacing.itemsEnd (spacing : Spacing) (level : Nat) : List Json → List Char
  | [] => spacing.line level ++ [']']
  | item :: items =>
    ',' :: (spacing.line (level + 1) ++ (spacing.chars (level + 1) item ++
      spacing.itemsEnd level items))

/-- What follows the first field of an object at a level: the other fields and the end. -/
def Spacing.fieldsEnd (spacing : Spacing) (level : Nat) : List (String × Json) → List Char
  | [] => spacing.line level ++ ['}']
  | (key, value) :: fields =>
    ',' :: (spacing.line (level + 1) ++ (quoted key ++ ':' :: (spacing.colon ++
      (spacing.chars (level + 1) value ++ spacing.fieldsEnd level fields))))

end

mutual

/-- Without blanks the text of a value is the compact one. -/
theorem compactChars_eq (level : Nat) (value : Json) :
    compactChars value = Spacing.tight.chars level value := by
  match value with
  | null | bool _ | number _ | string _ => rfl
  | array [] => rfl
  | array (item :: items) =>
    rw [compactChars, compactItems_append level item items]
    rfl
  | object [] => rfl
  | object (field :: fields) =>
    rw [compactChars, compactFields_append level field fields]
    rfl
termination_by sizeOf value

/-- The compact text of items up to the end of their list. -/
theorem compactItems_append (level : Nat) (item : Json) (items : List Json) :
    compactItems (item :: items) ++ [']'] =
      Spacing.tight.chars (level + 1) item ++ Spacing.tight.itemsEnd level items := by
  match items with
  | [] =>
    rw [compactItems, compactChars_eq (level + 1) item]
    rfl
  | next :: items =>
    have hmore : compactItems (item :: next :: items) =
        compactChars item ++ ',' :: compactItems (next :: items) := rfl
    rw [hmore, compactChars_eq (level + 1) item, List.append_assoc, List.cons_append,
      compactItems_append level next items]
    rfl
termination_by sizeOf (item :: items)

/-- The compact text of fields up to the end of their object. -/
theorem compactFields_append (level : Nat) (field : String × Json)
    (fields : List (String × Json)) :
    compactFields (field :: fields) ++ ['}'] =
      quoted field.1 ++ ':' :: (Spacing.tight.chars (level + 1) field.2 ++
        Spacing.tight.fieldsEnd level fields) := by
  match field, fields with
  | (key, value), [] =>
    rw [compactFields, compactChars_eq (level + 1) value, List.append_assoc]
    rfl
  | (key, value), next :: fields =>
    have hmore : compactFields ((key, value) :: next :: fields) =
        quoted key ++ ':' :: (compactChars value ++ ',' :: compactFields (next :: fields)) := rfl
    rw [hmore, compactChars_eq (level + 1) value, List.append_assoc, List.cons_append,
      List.append_assoc, List.cons_append, compactFields_append level next fields]
    rfl
termination_by sizeOf (field :: fields)

end

mutual

/-- With a line for each item and each field, the text of a value is the indented one. -/
theorem indentedChars_eq (level : Nat) (value : Json) :
    indentedChars level value = Spacing.wide.chars level value := by
  match value with
  | null | bool _ | number _ | string _ => rfl
  | array [] => rfl
  | array (item :: items) =>
    have hmore : indentedChars level (array (item :: items)) =
        '[' :: (newLine (level + 1) ++ indentedItems (level + 1) (item :: items) ++
          newLine level ++ [']']) := rfl
    rw [hmore, List.append_assoc, List.append_assoc, indentedItems_append level item items]
    rfl
  | object [] => rfl
  | object (field :: fields) =>
    have hmore : indentedChars level (object (field :: fields)) =
        '{' :: (newLine (level + 1) ++ indentedFields (level + 1) (field :: fields) ++
          newLine level ++ ['}']) := rfl
    rw [hmore, List.append_assoc, List.append_assoc, indentedFields_append level field fields]
    rfl
termination_by sizeOf value

/-- The indented text of items up to the end of their list. -/
theorem indentedItems_append (level : Nat) (item : Json) (items : List Json) :
    indentedItems (level + 1) (item :: items) ++ (newLine level ++ [']']) =
      Spacing.wide.chars (level + 1) item ++ Spacing.wide.itemsEnd level items := by
  match items with
  | [] =>
    rw [indentedItems, indentedChars_eq (level + 1) item]
    rfl
  | next :: items =>
    have hmore : indentedItems (level + 1) (item :: next :: items) =
        indentedChars (level + 1) item ++
          ',' :: (newLine (level + 1) ++ indentedItems (level + 1) (next :: items)) := rfl
    rw [hmore, indentedChars_eq (level + 1) item, List.append_assoc, List.cons_append,
      List.append_assoc, indentedItems_append level next items]
    rfl
termination_by sizeOf (item :: items)

/-- The indented text of fields up to the end of their object. -/
theorem indentedFields_append (level : Nat) (field : String × Json)
    (fields : List (String × Json)) :
    indentedFields (level + 1) (field :: fields) ++ (newLine level ++ ['}']) =
      quoted field.1 ++ ':' :: ' ' :: (Spacing.wide.chars (level + 1) field.2 ++
        Spacing.wide.fieldsEnd level fields) := by
  match field, fields with
  | (key, value), [] =>
    rw [indentedFields, indentedChars_eq (level + 1) value, List.append_assoc]
    rfl
  | (key, value), next :: fields =>
    have hmore : indentedFields (level + 1) ((key, value) :: next :: fields) =
        quoted key ++ ':' :: ' ' :: (indentedChars (level + 1) value ++
          ',' :: (newLine (level + 1) ++ indentedFields (level + 1) (next :: fields))) := rfl
    rw [hmore, indentedChars_eq (level + 1) value, List.append_assoc, List.cons_append,
      List.cons_append, List.append_assoc, List.cons_append, List.append_assoc,
      indentedFields_append level next fields]
    rfl
termination_by sizeOf (field :: fields)

end

/-! ### Reading a text -/

mutual

/-- The numbers in a value. -/
def numbers : Json → List JsonNumber
  | number value => [value]
  | array items => itemNumbers items
  | object fields => fieldNumbers fields
  | _ => []

/-- The numbers in the items of a list. -/
def itemNumbers : List Json → List JsonNumber
  | [] => []
  | item :: items => numbers item ++ itemNumbers items

/-- The numbers in the fields of an object. -/
def fieldNumbers : List (String × Json) → List JsonNumber
  | [] => []
  | (_, value) :: fields => numbers value ++ fieldNumbers fields

end

/-- What may follow a value ends a number. -/
theorem endsNumber_append {blanks : List Char} (h : ∀ c ∈ blanks, IsSpace c) {c : Char}
    (hc : c = ',' ∨ c = ']' ∨ c = '}') (rest : List Char) : EndsNumber (blanks ++ c :: rest) := by
  intro d hd
  cases blanks with
  | nil =>
    obtain rfl := Option.some.inj hd
    rcases hc with rfl | rfl | rfl <;> decide
  | cons blank blanks =>
    obtain rfl := Option.some.inj hd
    rcases h blank List.mem_cons_self with rfl | rfl | rfl | rfl <;> decide

/-- A character with which the text of a value starts: no blank, and no end of a list. -/
def StartsValue (c : Char) : Prop := ¬ IsSpace c ∧ c ≠ ']'

/-- A number starts as a value does. -/
theorem StartsNumber.startsValue {c : Char} (h : StartsNumber c) : StartsValue c := by
  refine ⟨?_, ?_⟩
  · rintro (rfl | rfl | rfl | rfl) <;> exact absurd h (by simp [StartsNumber, isDigit])
  · rintro rfl
    exact absurd h (by simp [StartsNumber, isDigit])

variable {spacing : Spacing}

/-- The text of a value starts as one. -/
theorem exists_chars_cons (spacing : Spacing) {value : Json}
    (h : ∀ number ∈ value.numbers, ReadsBack number) (level : Nat) :
    ∃ c more, spacing.chars level value = c :: more ∧ StartsValue c := by
  cases value with
  | null => exact ⟨_, _, rfl, by simp [StartsValue, IsSpace]⟩
  | bool value => cases value <;> exact ⟨_, _, rfl, by simp [StartsValue, IsSpace]⟩
  | string value => exact ⟨_, _, rfl, by simp [StartsValue, IsSpace]⟩
  | number value =>
    obtain ⟨⟨c, more, hchars, hstarts⟩, -⟩ :=
      (h value (List.mem_singleton_self value)).exists_signedNumber
    exact ⟨c, more, hchars, hstarts.startsValue⟩
  | array items => cases items <;> exact ⟨_, _, rfl, by simp [StartsValue, IsSpace]⟩
  | object fields => cases fields <;> exact ⟨_, _, rfl, by simp [StartsValue, IsSpace]⟩

section

variable {fuel : Nat} {cursor : Cursor} {c : Char} {more : List Char} {start : Mark}

/-- Null is read as a word. -/
theorem scanNode_null (h : cursor.skipBlanks = ⟨'n' :: more, start⟩) :
    scanNode (fuel + 1) cursor = Cursor.word .null ⟨more, start.after 'n'⟩ ['u', 'l', 'l'] := by
  unfold scanNode
  rw [h]
  rfl

/-- True is read as a word. -/
theorem scanNode_true (h : cursor.skipBlanks = ⟨'t' :: more, start⟩) :
    scanNode (fuel + 1) cursor =
      Cursor.word (.bool true) ⟨more, start.after 't'⟩ ['r', 'u', 'e'] := by
  unfold scanNode
  rw [h]
  rfl

/-- False is read as a word. -/
theorem scanNode_false (h : cursor.skipBlanks = ⟨'f' :: more, start⟩) :
    scanNode (fuel + 1) cursor =
      Cursor.word (.bool false) ⟨more, start.after 'f'⟩ ['a', 'l', 's', 'e'] := by
  unfold scanNode
  rw [h]
  rfl

/-- Behind a quote a string is read. -/
theorem scanNode_string (h : cursor.skipBlanks = ⟨'"' :: more, start⟩)
    {value : Except Fault String} {after : Cursor}
    (hstring : Cursor.string ⟨more, start.after '"'⟩ = .closed value after) :
    scanNode (fuel + 1) cursor = (.string value after.mark, after) := by
  unfold scanNode
  rw [h]
  simp [Cursor.drop, isDigit, hstring]

/-- Behind its bracket the items of a list are read. -/
theorem scanNode_array (h : cursor.skipBlanks = ⟨'[' :: more, start⟩) {items : Items}
    {after : Cursor} (hitems : scanItems fuel true ⟨more, start.after '['⟩ = (items, after)) :
    scanNode (fuel + 1) cursor = (.array start items, after) := by
  unfold scanNode
  rw [h]
  simp [Cursor.drop, isDigit, hitems]

/-- Behind its brace the fields of an object are read. -/
theorem scanNode_object (h : cursor.skipBlanks = ⟨'{' :: more, start⟩) {fields : Fields}
    {after : Cursor} (hfields : scanFields fuel true ⟨more, start.after '{'⟩ = (fields, after)) :
    scanNode (fuel + 1) cursor = (.object start fields, after) := by
  unfold scanNode
  rw [h]
  simp [Cursor.drop, isDigit, hfields]

/-- The item of a list that comes next, and those behind it. -/
def scanItem (fuel : Nat) (cursor : Cursor) : Items × Cursor :=
  let (value, after) := scanNode fuel cursor
  let (rest, last) := scanItems fuel false after
  (.item cursor.peek value rest, last)

/-- A list ends where its end comes next. -/
theorem scanItems_done (fuel : Nat) (isFirst : Bool)
    (h : cursor.skipBlanks = ⟨']' :: more, start⟩) :
    scanItems (fuel + 1) isFirst cursor = (.done, ⟨more, start.after ']'⟩) := by
  unfold scanItems
  rw [h]
  rfl

/-- A list that does not end has a first item. -/
theorem scanItems_first {item : Cursor} (h : cursor.skipBlanks = item)
    (hitem : item.rest = c :: more) (hc : c ≠ ']') :
    scanItems (fuel + 1) true cursor = scanItem fuel item := by
  unfold scanItems
  rw [h]
  dsimp only
  rw [hitem]
  dsimp only
  rw [if_neg hc]
  rfl

/-- Behind a comma there is another item. -/
theorem scanItems_more (h : cursor.skipBlanks = ⟨',' :: more, start⟩) {item : Cursor}
    (hnext : Cursor.skipBlanks ⟨more, start.after ','⟩ = item) {others : List Char}
    (hitem : item.rest = c :: others) (hc : c ≠ ']') :
    scanItems (fuel + 1) false cursor = scanItem fuel item := by
  unfold scanItems
  rw [h]
  dsimp only [Cursor.drop]
  rw [hnext, hitem, if_neg (by decide), if_neg (by decide), if_pos rfl]
  split
  · next heq => cases heq
  · next heq =>
    cases heq
    exact absurd rfl hc
  · rfl

/-- The field of an object of which the key was read, and those behind it. -/
def scanField (fuel : Nat) (key : String) (afterKey colon : Cursor) : Fields × Cursor :=
  let (value, after) := scanNode fuel colon
  let (rest, last) := scanFields fuel false after
  (.field (.ok key) afterKey.objectMark value after.objectMark rest, last)

/-- An object ends where its end comes next. -/
theorem scanFields_done (fuel : Nat) (isFirst : Bool)
    (h : cursor.skipBlanks = ⟨'}' :: more, start⟩) :
    scanFields (fuel + 1) isFirst cursor = (.done, ⟨more, start.after '}'⟩) := by
  unfold scanFields
  rw [h]
  rfl

variable {key : String} {afterKey : Cursor} {others : List Char} {colon : Mark}

/-- An object that does not end has a first field. -/
theorem scanFields_first (h : cursor.skipBlanks = ⟨'"' :: more, start⟩)
    (hkey : Cursor.string ⟨more, start.after '"'⟩ = .closed (.ok key) afterKey)
    (hcolon : afterKey.skipBlanks = ⟨':' :: others, colon⟩) :
    scanFields (fuel + 1) true cursor =
      scanField fuel key afterKey ⟨others, colon.after ':'⟩ := by
  unfold scanFields
  rw [h]
  simp [Cursor.drop, hkey, hcolon, scanField]

/-- Behind a comma there is another field. -/
theorem scanFields_more (h : cursor.skipBlanks = ⟨',' :: more, start⟩) {name : List Char}
    {next : Mark} (hnext : Cursor.skipBlanks ⟨more, start.after ','⟩ = ⟨'"' :: name, next⟩)
    (hkey : Cursor.string ⟨name, next.after '"'⟩ = .closed (.ok key) afterKey)
    (hcolon : afterKey.skipBlanks = ⟨':' :: others, colon⟩) :
    scanFields (fuel + 1) false cursor =
      scanField fuel key afterKey ⟨others, colon.after ':'⟩ := by
  unfold scanFields
  rw [h]
  simp [Cursor.drop, hnext, hkey, hcolon, scanField]

end

section

variable {blanks rest : List Char} (hblanks : ∀ c ∈ blanks, IsSpace c) (mark : Mark)
include hblanks

/-- A word behind blanks is read as what it stands for. -/
theorem exists_scanNode_word {fuel : Nat} {c : Char} {letters : List Char} {word : Mark → Node}
    (hc : ¬ IsSpace c) (hscan : ∀ {cursor : Cursor} {more start},
      cursor.skipBlanks = ⟨c :: more, start⟩ →
        scanNode (fuel + 1) cursor = Cursor.word word ⟨more, start.after c⟩ letters) :
    ∃ stop, scanNode (fuel + 1) ⟨blanks ++ (c :: (letters ++ rest)), mark⟩ =
      (word stop, ⟨rest, stop⟩) := by
  obtain ⟨start, hskip⟩ := exists_skipBlanks hblanks hc (letters ++ rest) mark
  obtain ⟨stop, hword⟩ := exists_word word letters rest (start.after c)
  exact ⟨stop, (hscan hskip).trans hword⟩

/-- A string that comes next is read up to its end. -/
theorem exists_string (text : String) (rest : List Char) :
    ∃ more start stop, Cursor.skipBlanks ⟨blanks ++ (quoted text ++ rest), mark⟩ =
        ⟨'"' :: more, start⟩ ∧
      Cursor.string ⟨more, start.after '"'⟩ = .closed (.ok text) ⟨rest, stop⟩ := by
  obtain ⟨start, hskip⟩ := exists_skipBlanks (c := '"') hblanks (by decide)
    (text.toList.flatMap escapeChar ++ '"' :: rest) mark
  obtain ⟨stop, hstring⟩ := exists_scanString text.toList rest [] (start.after '"')
  refine ⟨text.toList.flatMap escapeChar ++ '"' :: rest, start, stop, ?_, ?_⟩
  · rw [quoted, List.cons_append, List.append_assoc]
    exact hskip
  · rw [Cursor.string, hstring, List.reverse_nil, List.nil_append, String.ofList_toList]

end

section

variable (hspacing : spacing.IsBlank)
include hspacing

/-- What follows an item of a list ends a number. -/
theorem endsNumber_itemsEnd (level : Nat) (items : List Json) (rest : List Char) :
    EndsNumber (spacing.itemsEnd level items ++ rest) := by
  cases items with
  | nil =>
    rw [Spacing.itemsEnd, List.append_assoc]
    exact endsNumber_append (hspacing.line level) (by simp) rest
  | cons item items => exact endsNumber_append (List.forall_mem_nil _) (by simp) _

/-- What follows a field of an object ends a number. -/
theorem endsNumber_fieldsEnd (level : Nat) (fields : List (String × Json)) (rest : List Char) :
    EndsNumber (spacing.fieldsEnd level fields ++ rest) := by
  cases fields with
  | nil =>
    rw [Spacing.fieldsEnd, List.append_assoc]
    exact endsNumber_append (hspacing.line level) (by simp) rest
  | cons field fields => exact endsNumber_append (List.forall_mem_nil _) (by simp) _

omit hspacing in
/-- Blanks in front of a value are passed over, and it does not start as the end of a list. -/
theorem exists_skipBlanks_chars (spacing : Spacing) {value : Json}
    (h : ∀ number ∈ value.numbers, ReadsBack number) (level : Nat) {blanks : List Char}
    (hblanks : ∀ c ∈ blanks, IsSpace c) (rest : List Char) (mark : Mark) :
    ∃ start, Cursor.skipBlanks ⟨blanks ++ (spacing.chars level value ++ rest), mark⟩ =
        ⟨spacing.chars level value ++ rest, start⟩ ∧
      ∃ c more, spacing.chars level value ++ rest = c :: more ∧ c ≠ ']' := by
  obtain ⟨c, more, hchars, hspace, hend⟩ := exists_chars_cons spacing h level
  rw [hchars, List.cons_append]
  obtain ⟨start, hskip⟩ := exists_skipBlanks hblanks hspace (more ++ rest) mark
  exact ⟨start, hskip, c, more ++ rest, rfl, hend⟩

omit hspacing in
/-- Fuel for a value is not zero. -/
theorem exists_eq_succ {value : Json} (h : ∀ number ∈ value.numbers, ReadsBack number)
    {level fuel : Nat} (hfuel : 2 * (spacing.chars level value).length ≤ fuel) :
    ∃ less, fuel = less + 1 := by
  obtain ⟨c, more, hchars, -⟩ := exists_chars_cons spacing h level
  rw [hchars, List.length_cons] at hfuel
  exact ⟨fuel - 1, by omega⟩

-- The induction is on the value. One item or field uses two units of fuel, one for the list or the
-- object and one for the value, and a character at least: the comma, or the bracket in front.
mutual

/-- The text of a value is read as this value, wherever it stands, if the texts of its numbers
are. -/
theorem exists_scanNode_chars (value : Json) (h : ∀ number ∈ value.numbers, ReadsBack number)
    (level : Nat) {fuel : Nat} (hfuel : 2 * (spacing.chars level value).length ≤ fuel)
    {blanks rest : List Char} (hblanks : ∀ c ∈ blanks, IsSpace c) (hends : EndsNumber rest)
    (mark : Mark) :
    ∃ node stop, scanNode fuel ⟨blanks ++ (spacing.chars level value ++ rest), mark⟩ =
      (node, ⟨rest, stop⟩) ∧ node.unmarked = Node.ofJson value := by
  match value with
  | null =>
    obtain ⟨less, rfl⟩ := exists_eq_succ h hfuel
    obtain ⟨stop, hscan⟩ := exists_scanNode_word hblanks mark (by decide) scanNode_null
    exact ⟨_, stop, hscan, rfl⟩
  | bool true =>
    obtain ⟨less, rfl⟩ := exists_eq_succ h hfuel
    obtain ⟨stop, hscan⟩ := exists_scanNode_word hblanks mark (by decide) scanNode_true
    exact ⟨_, stop, hscan, rfl⟩
  | bool false =>
    obtain ⟨less, rfl⟩ := exists_eq_succ h hfuel
    obtain ⟨stop, hscan⟩ := exists_scanNode_word hblanks mark (by decide) scanNode_false
    exact ⟨_, stop, hscan, rfl⟩
  | number value =>
    obtain ⟨less, rfl⟩ := exists_eq_succ h hfuel
    obtain ⟨stop, after, hscan⟩ :=
      (h value (List.mem_singleton_self value)).exists_scanNode hblanks hends less mark
    exact ⟨_, after, hscan, rfl⟩
  | string value =>
    obtain ⟨less, rfl⟩ := exists_eq_succ h hfuel
    obtain ⟨more, start, stop, hskip, hstring⟩ := exists_string hblanks mark value rest
    exact ⟨_, stop, scanNode_string hskip hstring, rfl⟩
  | array [] =>
    simp only [Spacing.chars, List.length_cons, List.length_nil] at hfuel
    obtain ⟨less, rfl⟩ : ∃ less, fuel = less + 2 := ⟨fuel - 2, by omega⟩
    obtain ⟨start, hskip⟩ := exists_skipBlanks (c := '[') hblanks (by decide) (']' :: rest) mark
    have hend := scanItems_done less true (skipBlanks_cons (by decide) rest (start.after '['))
    exact ⟨_, _, scanNode_array hskip hend, rfl⟩
  | array (item :: items) =>
    simp only [Spacing.chars, List.length_cons, List.length_append] at hfuel
    obtain ⟨less, rfl⟩ : ∃ less, fuel = less + 2 := ⟨fuel - 2, by omega⟩
    obtain ⟨start, hskip⟩ := exists_skipBlanks (c := '[') hblanks (by decide)
      (spacing.line (level + 1) ++ (spacing.chars (level + 1) item ++
        (spacing.itemsEnd level items ++ rest))) mark
    obtain ⟨first, hfirst, c, more, hchars, hc⟩ := exists_skipBlanks_chars spacing
      (List.forall_mem_append.mp h).1 (level + 1) (hspacing.line (level + 1))
      (spacing.itemsEnd level items ++ rest) (start.after '[')
    obtain ⟨found, stop, hfound, hvalues⟩ :=
      exists_scanItem item items h level less (by omega) (by omega) rest first
    have hscan := scanNode_array hskip ((scanItems_first hfirst hchars hc).trans hfound)
    refine ⟨.array start found, stop, ?_, congrArg (Node.array .nowhere) hvalues⟩
    rw [← hscan, Spacing.chars, List.cons_append, List.append_assoc, List.append_assoc]
  | object [] =>
    simp only [Spacing.chars, List.length_cons, List.length_nil] at hfuel
    obtain ⟨less, rfl⟩ : ∃ less, fuel = less + 2 := ⟨fuel - 2, by omega⟩
    obtain ⟨start, hskip⟩ := exists_skipBlanks (c := '{') hblanks (by decide) ('}' :: rest) mark
    have hend := scanFields_done less true (skipBlanks_cons (by decide) rest (start.after '{'))
    exact ⟨_, _, scanNode_object hskip hend, rfl⟩
  | object ((key, value) :: fields) =>
    simp only [Spacing.chars, List.length_cons, List.length_append] at hfuel
    obtain ⟨less, rfl⟩ : ∃ less, fuel = less + 2 := ⟨fuel - 2, by omega⟩
    obtain ⟨start, hskip⟩ := exists_skipBlanks (c := '{') hblanks (by decide)
      (spacing.line (level + 1) ++ (quoted key ++ ':' :: (spacing.colon ++
        (spacing.chars (level + 1) value ++ (spacing.fieldsEnd level fields ++ rest))))) mark
    obtain ⟨name, first, afterKey, hfirst, hkey⟩ :=
      exists_string (hspacing.line (level + 1)) (start.after '{') key _
    obtain ⟨found, stop, hfound, hvalues⟩ := exists_scanField key value fields h level less
      (by omega) (by omega) rest ⟨_, afterKey⟩ (afterKey.after ':')
    have hcolon := skipBlanks_cons (c := ':') (by decide) (spacing.colon ++
      (spacing.chars (level + 1) value ++ (spacing.fieldsEnd level fields ++ rest))) afterKey
    have hscan := scanNode_object hskip ((scanFields_first hfirst hkey hcolon).trans hfound)
    refine ⟨.object start found, stop, ?_, congrArg (Node.object .nowhere) hvalues⟩
    rw [← hscan]
    simp only [Spacing.chars, List.cons_append, List.append_assoc]
termination_by (sizeOf value, 0)

/-- An item of a list and those behind it are read. -/
theorem exists_scanItem (item : Json) (items : List Json)
    (h : ∀ number ∈ itemNumbers (item :: items), ReadsBack number) (level fuel : Nat)
    (hitem : 2 * (spacing.chars (level + 1) item).length ≤ fuel)
    (hitems : 2 * (spacing.itemsEnd level items).length ≤ fuel) (rest : List Char) (mark : Mark) :
    ∃ found stop, scanItem fuel
        ⟨spacing.chars (level + 1) item ++ (spacing.itemsEnd level items ++ rest), mark⟩ =
      (found, ⟨rest, stop⟩) ∧ found.unmarked = Items.ofJson (item :: items) := by
  rw [itemNumbers, List.forall_mem_append] at h
  obtain ⟨node, after, hnode, hvalue⟩ := exists_scanNode_chars item h.1 (level + 1) hitem
    (List.forall_mem_nil _) (endsNumber_itemsEnd hspacing level items rest) mark
  obtain ⟨others, stop, hothers, hvalues⟩ := exists_scanItems items h.2 hitems rest after
  rw [List.nil_append] at hnode
  rw [scanItem, hnode]
  dsimp only
  rw [hothers]
  refine ⟨_, stop, rfl, ?_⟩
  rw [Items.unmarked, hvalue, hvalues, Items.ofJson]
termination_by (sizeOf (item :: items), 0)

/-- The items of a list behind its first one are read. -/
theorem exists_scanItems (items : List Json)
    (h : ∀ number ∈ itemNumbers items, ReadsBack number) {level fuel : Nat}
    (hfuel : 2 * (spacing.itemsEnd level items).length ≤ fuel) (rest : List Char) (mark : Mark) :
    ∃ found stop, scanItems fuel false ⟨spacing.itemsEnd level items ++ rest, mark⟩ =
      (found, ⟨rest, stop⟩) ∧ found.unmarked = Items.ofJson items := by
  match items with
  | [] =>
    simp only [Spacing.itemsEnd, List.length_append, List.length_singleton] at hfuel
    obtain ⟨less, rfl⟩ : ∃ less, fuel = less + 1 := ⟨fuel - 1, by omega⟩
    obtain ⟨start, hskip⟩ :=
      exists_skipBlanks (c := ']') (hspacing.line level) (by decide) rest mark
    refine ⟨.done, start.after ']', ?_, rfl⟩
    rw [← scanItems_done less false hskip, Spacing.itemsEnd, List.append_assoc]
    rfl
  | item :: items =>
    simp only [Spacing.itemsEnd, List.length_cons, List.length_append] at hfuel
    obtain ⟨less, rfl⟩ : ∃ less, fuel = less + 1 := ⟨fuel - 1, by omega⟩
    have hcomma := skipBlanks_cons (c := ',') (by decide) (spacing.line (level + 1) ++
      (spacing.chars (level + 1) item ++ (spacing.itemsEnd level items ++ rest))) mark
    obtain ⟨next, hnext, c, more, hchars, hc⟩ := exists_skipBlanks_chars spacing
      (List.forall_mem_append.mp h).1 (level + 1) (hspacing.line (level + 1))
      (spacing.itemsEnd level items ++ rest) (mark.after ',')
    obtain ⟨found, stop, hfound, hvalues⟩ :=
      exists_scanItem item items h level less (by omega) (by omega) rest next
    refine ⟨found, stop, ?_, hvalues⟩
    rw [← hfound, ← scanItems_more hcomma hnext hchars hc]
    simp only [Spacing.itemsEnd, List.cons_append, List.append_assoc]
termination_by (sizeOf items, 1)

/-- The value of a field and the fields behind it are read. -/
theorem exists_scanField (key : String) (value : Json) (fields : List (String × Json))
    (h : ∀ number ∈ fieldNumbers ((key, value) :: fields), ReadsBack number) (level fuel : Nat)
    (hvalue : 2 * (spacing.chars (level + 1) value).length ≤ fuel)
    (hfields : 2 * (spacing.fieldsEnd level fields).length ≤ fuel) (rest : List Char)
    (afterKey : Cursor) (mark : Mark) :
    ∃ found stop, scanField fuel key afterKey ⟨spacing.colon ++
        (spacing.chars (level + 1) value ++ (spacing.fieldsEnd level fields ++ rest)), mark⟩ =
      (found, ⟨rest, stop⟩) ∧ found.unmarked = Fields.ofJson ((key, value) :: fields) := by
  rw [fieldNumbers, List.forall_mem_append] at h
  obtain ⟨node, after, hnode, hread⟩ := exists_scanNode_chars value h.1 (level + 1) hvalue
    hspacing.colon (endsNumber_fieldsEnd hspacing level fields rest) mark
  obtain ⟨others, stop, hothers, hvalues⟩ := exists_scanFields fields h.2 hfields rest after
  rw [scanField, hnode]
  dsimp only
  rw [hothers]
  refine ⟨_, stop, rfl, ?_⟩
  rw [Fields.unmarked, hread, hvalues, Fields.ofJson]
termination_by (sizeOf ((key, value) :: fields), 0)

/-- The fields of an object behind its first one are read. -/
theorem exists_scanFields (fields : List (String × Json))
    (h : ∀ number ∈ fieldNumbers fields, ReadsBack number) {level fuel : Nat}
    (hfuel : 2 * (spacing.fieldsEnd level fields).length ≤ fuel) (rest : List Char)
    (mark : Mark) :
    ∃ found stop, scanFields fuel false ⟨spacing.fieldsEnd level fields ++ rest, mark⟩ =
      (found, ⟨rest, stop⟩) ∧ found.unmarked = Fields.ofJson fields := by
  match fields with
  | [] =>
    simp only [Spacing.fieldsEnd, List.length_append, List.length_singleton] at hfuel
    obtain ⟨less, rfl⟩ : ∃ less, fuel = less + 1 := ⟨fuel - 1, by omega⟩
    obtain ⟨start, hskip⟩ :=
      exists_skipBlanks (c := '}') (hspacing.line level) (by decide) rest mark
    refine ⟨.done, start.after '}', ?_, rfl⟩
    rw [← scanFields_done less false hskip, Spacing.fieldsEnd, List.append_assoc]
    rfl
  | (key, value) :: fields =>
    simp only [Spacing.fieldsEnd, List.length_cons, List.length_append] at hfuel
    obtain ⟨less, rfl⟩ : ∃ less, fuel = less + 1 := ⟨fuel - 1, by omega⟩
    have hcomma := skipBlanks_cons (c := ',') (by decide) (spacing.line (level + 1) ++
      (quoted key ++ ':' :: (spacing.colon ++ (spacing.chars (level + 1) value ++
        (spacing.fieldsEnd level fields ++ rest))))) mark
    obtain ⟨name, next, afterKey, hnext, hkey⟩ :=
      exists_string (hspacing.line (level + 1)) (mark.after ',') key _
    have hcolon := skipBlanks_cons (c := ':') (by decide) (spacing.colon ++
      (spacing.chars (level + 1) value ++ (spacing.fieldsEnd level fields ++ rest))) afterKey
    obtain ⟨found, stop, hfound, hvalues⟩ := exists_scanField key value fields h level less
      (by omega) (by omega) rest ⟨_, afterKey⟩ (afterKey.after ':')
    refine ⟨found, stop, ?_, hvalues⟩
    rw [← hfound, ← scanFields_more hcomma hnext hkey hcolon]
    simp only [Spacing.fieldsEnd, List.cons_append, List.append_assoc]
termination_by (sizeOf fields, 1)

end

omit hspacing in
/-- Nothing ends a number as well. -/
theorem endsNumber_nil : EndsNumber [] := fun _ hc => nomatch hc

variable {value : Json} (h : ∀ number ∈ value.numbers, ReadsBack number) {α : Type}
  {reader : Depth → Node → Except Fault α} (hreader : IgnoresMarks (reader .ofText)) {result : α}
  (hread : reader .ofText (Node.ofJson value) = .ok result)
include h hreader hread

/-- What a reader makes of a value it makes of the text of the value. -/
theorem read_ofText_chars :
    (Document.ofText (String.ofList (spacing.chars 0 value))).read reader = .ok result := by
  obtain ⟨node, stop, hscan, hnode⟩ := exists_scanNode_chars hspacing value h 0
    (Nat.le_add_right _ 2) (List.forall_mem_nil _) endsNumber_nil .start
  rw [List.nil_append, List.append_nil] at hscan
  have hdocument : Document.ofText (String.ofList (spacing.chars 0 value)) = ⟨node, none⟩ := by
    unfold Document.ofText
    rw [String.toList_ofList]
    dsimp only
    rw [hscan]
    rfl
  rw [hdocument]
  exact bind_eq_ok_iff.mpr ⟨result, hreader node result (hnode ▸ hread), rfl⟩

omit hspacing in
/-- What a reader makes of a value it makes of the compact text of the value. -/
theorem read_ofText_compact : (Document.ofText value.compact).read reader = .ok result := by
  rw [compact, compactChars_eq 0 value]
  exact read_ofText_chars Spacing.isBlank_tight h hreader hread

omit hspacing in
/-- What a reader makes of a value it makes of the indented text of the value. -/
theorem read_ofText_indented : (Document.ofText value.indented).read reader = .ok result := by
  rw [indented, indentedChars_eq 0 value]
  exact read_ofText_chars Spacing.isBlank_wide h hreader hread

end

end Conventions.Json
