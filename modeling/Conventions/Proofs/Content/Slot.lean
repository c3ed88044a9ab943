import Conventions.Content.Query
import Conventions.Proofs.Insertion

/-!
# Reading and writing in one place

The place of a query is found one step at a time, and writing there goes back through all the places
on the way. It is shown of every place on the way that it holds what reading finds there, that
reading finds what is written there, that nothing changes if what is there is written again, and
that parts beside the way stay as they are.
-/

namespace Conventions

namespace Query

variable {document : Json} {slot next : Slot} {step other : Step} {steps more : List Step}

/-! ### Reading -/

/-- Steps lead where the later ones of them lead from where the earlier ones do. -/
theorem selectSteps_append (steps more : List Step) (document : Json) :
    selectSteps (steps ++ more) document =
      (selectSteps steps document).bind (selectSteps more) := by
  induction steps generalizing document with
  | nil => rfl
  | cons step steps ih =>
    cases step with
    | key name =>
      cases document with
      | object fields => cases hpart : Entries.find? name fields <;> simp [selectSteps, hpart, ih]
      | _ => rfl
    | index position =>
      cases document with
      | array items => cases hpart : items[position]? <;> simp [selectSteps, hpart, ih]
      | _ => rfl

/-- Steps lead where the others lead from where the first one does. -/
theorem selectSteps_cons (step : Step) (steps : List Step) (document : Json) :
    selectSteps (step :: steps) document =
      (selectSteps [step] document).bind (selectSteps steps) :=
  selectSteps_append [step] steps document

/-- A step leads to the place of the part that it reads, if there is one. -/
theorem map_content_enter (slot : Slot) (step : Step) :
    (slot.enter step).map Slot.content = selectSteps [step] slot.content := by
  cases step with
  | key name =>
    cases hcontent : slot.content with
    | object fields =>
      cases hpart : Entries.find? name fields <;> simp [Slot.enter, selectSteps, hcontent, hpart]
    | _ => simp [Slot.enter, selectSteps, hcontent]
  | index position =>
    cases hcontent : slot.content with
    | array items =>
      cases hpart : items[position]? <;> simp [Slot.enter, selectSteps, hcontent, hpart]
    | _ => simp [Slot.enter, selectSteps, hcontent]

/-- Steps lead to the place of the part that they read, if there is one. -/
theorem map_content_foldlM (steps : List Step) (slot : Slot) :
    (steps.foldlM Slot.enter slot).map Slot.content = selectSteps steps slot.content := by
  induction steps generalizing slot with
  | nil => rfl
  | cons step steps ih =>
    rw [List.foldlM_cons, selectSteps_cons, ← map_content_enter]
    cases slot.enter step with
    | none => rfl
    | some next => exact ih next

/-! ### Writing one step deep -/

/-- Writing where a step leads changes the content of the place before in one part: what is written
is read with the step, what was there can be written again without any change, and other steps read
what they did. -/
structure PutsAt (step : Step) (before content : Json) (put : Json → Json) : Prop where
  select_put : ∀ value, selectSteps [step] (put value) = some value
  put_content : put content = before
  frame : ∀ value other, other ≠ step →
    selectSteps [other] (put value) = selectSteps [other] before

/-- Putting a value under a key that is there changes the object in this key. -/
theorem putsAt_key {name : String} {fields : Entries Json} {content : Json}
    (h : fields.find? name = some content) :
    PutsAt (.key name) (.object fields) content
      fun value => .object (Entries.insert name value fields) where
  select_put value := by simp [selectSteps, Entries.find?_insert]
  put_content := by rw [Entries.insert_of_find? h]
  frame value other hne := by
    cases other with
    | key key =>
      have hother : name ≠ key := fun heq => hne (heq ▸ rfl)
      simp [selectSteps, Entries.find?_insert, hother]
    | index position => rfl

/-- Setting an item that is there changes the array in its position. -/
theorem putsAt_index {position : Nat} {items : List Json} {content : Json}
    (h : items[position]? = some content) :
    PutsAt (.index position) (.array items) content
      fun value => .array (items.set position value) where
  select_put value := by
    obtain ⟨hposition, -⟩ := List.getElem?_eq_some_iff.mp h
    simp [selectSteps, hposition]
  put_content := by
    obtain ⟨hposition, rfl⟩ := List.getElem?_eq_some_iff.mp h
    rw [List.set_getElem_self]
  frame value other hne := by
    cases other with
    | key name => rfl
    | index other =>
      have hother : position ≠ other := fun heq => hne (heq ▸ rfl)
      simp [selectSteps, hother]

/-- A place where a step leads holds what the step reads, and writing there writes back what is put
in this part. -/
theorem enter_eq_some (h : slot.enter step = some next) :
    selectSteps [step] slot.content = some next.content ∧
      ∃ put, PutsAt step slot.content next.content put ∧
        ∀ value, next.write value = slot.write (put value) := by
  have hread := map_content_enter slot step
  rw [h, Option.map_some] at hread
  refine ⟨hread.symm, ?_⟩
  cases step with
  | key name =>
    simp only [Slot.enter] at h
    split at h
    · next fields hfields =>
      obtain ⟨part, hpart, h⟩ := Option.bind_eq_some_iff.mp h
      cases h
      exact ⟨_, hfields ▸ putsAt_key hpart, fun value => rfl⟩
    · cases h
  | index position =>
    simp only [Slot.enter] at h
    split at h
    · next items hitems =>
      obtain ⟨part, hpart, h⟩ := Option.bind_eq_some_iff.mp h
      cases h
      exact ⟨_, hitems ▸ putsAt_index hpart, fun value => rfl⟩
    · cases h

/-! ### Writing where steps lead -/

/-- A place is the one where steps lead in a document: it holds what the steps read, they read what
is written there, writing what is there changes nothing, and steps that lead beside it read what
they did. -/
structure IsAt (steps : List Step) (document : Json) (slot : Slot) : Prop where
  select : selectSteps steps document = some slot.content
  select_write : ∀ value, selectSteps steps (slot.write value) = some value
  write_content : slot.write slot.content = document
  frame : ∀ value other, ¬ other <+: steps → ¬ steps <+: other →
    selectSteps other (slot.write value) = selectSteps other document

/-- No steps lead to the whole document. -/
theorem isAt_document (document : Json) : IsAt [] document ⟨document, id⟩ where
  select := rfl
  select_write _ := rfl
  write_content := rfl
  frame _ _ _ hbelow := absurd List.nil_prefix hbelow

/-- Steps that lead beside a place further down lead beside the place before, or part from it
there. -/
theorem beside_cases {path : List Step} (habove : ¬ path <+: steps ++ [step])
    (hbelow : ¬ steps ++ [step] <+: path) :
    (¬ path <+: steps ∧ ¬ steps <+: path) ∨
      ∃ other rest, other ≠ step ∧ path = steps ++ other :: rest := by
  by_cases hpath : steps <+: path
  · obtain ⟨rest, rfl⟩ := hpath
    cases rest with
    | nil =>
      rw [List.append_nil] at habove
      exact absurd (List.prefix_append _ _) habove
    | cons other rest =>
      refine Or.inr ⟨other, rest, ?_, rfl⟩
      rintro rfl
      refine hbelow ⟨rest, ?_⟩
      rw [List.append_assoc, List.singleton_append]
  · exact Or.inl ⟨fun hup => habove (hup.trans (List.prefix_append _ _)), hpath⟩

/-- A step from the place where steps lead goes to the place where they lead with this one. -/
theorem IsAt.enter (h : IsAt steps document slot) (hnext : slot.enter step = some next) :
    IsAt (steps ++ [step]) document next := by
  obtain ⟨hread, put, hput, hwrite⟩ := enter_eq_some hnext
  refine ⟨?_, fun value => ?_, ?_, fun value path habove hbelow => ?_⟩
  · rw [selectSteps_append, h.select]
    exact hread
  · rw [hwrite, selectSteps_append, h.select_write]
    exact hput.select_put value
  · rw [hwrite, hput.put_content, h.write_content]
  · rw [hwrite]
    rcases beside_cases habove hbelow with ⟨hup, hdown⟩ | ⟨other, rest, hne, rfl⟩
    · exact h.frame _ _ hup hdown
    · rw [selectSteps_append, selectSteps_append, h.select_write, h.select, Option.bind_some,
        Option.bind_some, selectSteps_cons other rest (put value), hput.frame value other hne,
        ← selectSteps_cons]

/-- Steps one after the other go to the place where they lead. -/
theorem isAt_of_foldlM (h : IsAt steps document slot)
    (hlast : more.foldlM Slot.enter slot = some next) : IsAt (steps ++ more) document next := by
  induction more generalizing steps slot with
  | nil =>
    cases hlast
    rwa [List.append_nil]
  | cons step more ih =>
    rw [List.foldlM_cons] at hlast
    obtain ⟨entered, hentered, hlast⟩ := Option.bind_eq_some_iff.mp hlast
    have hall := ih (h.enter hentered) hlast
    rwa [List.append_assoc] at hall

/-- The place of a query is there exactly if reading finds something, and holds just that. What is
written there is what the query then reads; writing what is there leaves the document as it is, with
the order of its keys; and whatever is written, every query that leads neither to a part of the
place nor to something that the place is a part of reads what it did before. -/
theorem slot_laws (query : Query) (document : Json) :
    (query.slot? document).map Slot.content = query.select document ∧
      ∀ slot, query.slot? document = some slot →
        (∀ value, query.select (slot.write value) = some value) ∧
        slot.write slot.content = document ∧
        ∀ value (other : Query), ¬ other.steps <+: query.steps → ¬ query.steps <+: other.steps →
          other.select (slot.write value) = other.select document := by
  refine ⟨map_content_foldlM query.steps ⟨document, id⟩, fun slot hslot => ?_⟩
  have hat := isAt_of_foldlM (isAt_document document) hslot
  rw [List.nil_append] at hat
  exact ⟨hat.select_write, hat.write_content, fun value other => hat.frame value other.steps⟩

/-- A document with an item of a list in one of its fields, and other parts beside it. -/
def listed : Json :=
  .object [("b", .string "x"), ("a", .array [.object [("x", .bool true), ("y", .null)], .null])]

/-- In the listed document one field of the item can be changed, and the other fields and the item
behind it stay. -/
theorem slot_laws_listed :
    ∃ slot, (Query.mk [.key "a", .index 0, .key "x"]).slot? listed = some slot ∧
      slot.content = .bool true ∧ slot.write slot.content = listed ∧
      ∀ value, (Query.mk [.key "a", .index 0, .key "x"]).select (slot.write value) = some value ∧
        (Query.mk [.key "a", .index 0, .key "y"]).select (slot.write value) = some .null ∧
        (Query.mk [.key "b"]).select (slot.write value) = some (.string "x") := by
  obtain ⟨hcontent, hlaws⟩ := slot_laws ⟨[.key "a", .index 0, .key "x"]⟩ listed
  have hselect : (Query.mk [.key "a", .index 0, .key "x"]).select listed = some (.bool true) := rfl
  rw [hselect] at hcontent
  obtain ⟨slot, hslot, hcontent⟩ := Option.map_eq_some_iff.mp hcontent
  obtain ⟨hwritten, hsame, hframe⟩ := hlaws slot hslot
  refine ⟨slot, hslot, hcontent, hsame, fun value => ⟨hwritten value, ?_, ?_⟩⟩
  · exact hframe value ⟨[.key "a", .index 0, .key "y"]⟩ (by decide) (by decide)
  · exact hframe value ⟨[.key "b"]⟩ (by decide) (by decide)

end Query

end Conventions
