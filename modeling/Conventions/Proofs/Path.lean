import Conventions.Path
import Conventions.Proofs.Sorting

/-!
# The order of paths

Paths are ordered by their components. Paths of which none comes before the other have the
same components, and a path contains those of which its components are the first ones. The
path of an entry of a directory has the name of the entry as one more component.
-/

namespace Conventions

/-- Components are ordered, names among them by their texts. -/
theorem isLinear_componentBefore : IsLinear Component.before where
  asymm := by
    intro a b hab
    cases a <;> cases b <;> simp_all [Component.before]
    exact isLinear_textBefore.asymm hab
  cotrans := by
    intro a c b hac
    cases a <;> cases b <;> cases c <;> simp_all [Component.before]
    exact isLinear_textBefore.cotrans _ hac
  eq_of_not := by
    intro a b hab hba
    cases a <;> cases b <;> simp_all [Component.before]
    exact isLinear_textBefore.eq_of_not hab hba

namespace RepoPath

/-- Two paths are the same if they have the same components. -/
theorem same_iff {a b : RepoPath} : a.same b = true ↔ a.components = b.components := by
  simp [same]

/-- Paths are ordered. -/
theorem isOrder_before : IsOrder RepoPath.before :=
  isLinear_componentBefore.listBefore.comap RepoPath.components

/-- Paths of which none comes before the other have the same components. -/
theorem same_of_not_before {a b : RepoPath} (hab : a.before b = false)
    (hba : b.before a = false) : a.components = b.components :=
  isLinear_componentBefore.listBefore.eq_of_not hab hba

/-- Paths of which one comes before the other are not the same. -/
theorem ne_of_before {a b : RepoPath} (h : a.before b = true) : a.components ≠ b.components := by
  intro heq
  have hself : b.before b = true := by rwa [before, heq] at h
  rw [isOrder_before.irrefl] at hself
  cases hself

/-- A path contains those of which its components are the first ones. -/
theorem contains_iff {path other : RepoPath} :
    path.contains other = true ↔ path.components <+: other.components :=
  List.isPrefixOf_iff_prefix

/-- Everything in a directory that is in another one is in that one. -/
theorem contains_trans {a b c : RepoPath} (hab : a.contains b = true)
    (hbc : b.contains c = true) : a.contains c = true :=
  contains_iff.mpr ((contains_iff.mp hab).trans (contains_iff.mp hbc))

/-! ### Entries of directories -/

/-- What an entry of a directory can be called. -/
structure IsName (name : String) : Prop where
  ne_empty : name ≠ ""
  ne_dot : name ≠ "."
  ne_dots : name ≠ ".."
  noSeparator : '/' ∉ name.toList

instance (name : String) : Decidable (IsName name) :=
  decidable_of_iff (name ≠ "" ∧ name ≠ "." ∧ name ≠ ".." ∧ '/' ∉ name.toList)
    ⟨fun ⟨hempty, hdot, hdots, hseparator⟩ => ⟨hempty, hdot, hdots, hseparator⟩,
      fun ⟨hempty, hdot, hdots, hseparator⟩ => ⟨hempty, hdot, hdots, hseparator⟩⟩

/-- A text has at least one piece. -/
theorem splitWhere_ne_nil (isEnd : Char → Bool) (text : List Char) :
    Text.splitWhere isEnd text ≠ [] := by
  cases text with
  | nil => simp [Text.splitWhere]
  | cons c rest =>
    unfold Text.splitWhere
    split
    · simp
    · split <;> simp

/-- A text with an end in it has the pieces in front of it and those behind it. -/
theorem splitWhere_append_cons {isEnd : Char → Bool} {c : Char} (hc : isEnd c = true)
    (start rest : List Char) : Text.splitWhere isEnd (start ++ c :: rest) =
      Text.splitWhere isEnd start ++ Text.splitWhere isEnd rest := by
  induction start with
  | nil => simp [Text.splitWhere, hc]
  | cons d start ih =>
    rw [List.cons_append, Text.splitWhere, Text.splitWhere]
    by_cases hd : isEnd d = true
    · rw [if_pos hd, if_pos hd, ih, List.cons_append]
    · rw [if_neg hd, if_neg hd, ih]
      cases hpieces : Text.splitWhere isEnd start with
      | nil => exact absurd hpieces (splitWhere_ne_nil isEnd start)
      | cons piece pieces => rfl

/-- A text without an end is one piece. -/
theorem splitWhere_of_forall_not {isEnd : Char → Bool} {text : List Char}
    (h : ∀ c ∈ text, isEnd c = false) : Text.splitWhere isEnd text = [text] := by
  induction text with
  | nil => rfl
  | cons c rest ih =>
    rw [Text.splitWhere, h c (by simp), ih fun d hd => h d (List.mem_cons_of_mem _ hd)]
    rfl

/-- Text behind a separator has its own pieces. -/
theorem pieces_append_separator (start rest : String) :
    pieces ⟨start ++ "/" ++ rest⟩ = pieces ⟨start⟩ ++ pieces ⟨rest⟩ := by
  have hsplit : Text.splitWhere (· == '/') (start.toList ++ '/' :: rest.toList) =
      Text.splitWhere (· == '/') start.toList ++ Text.splitWhere (· == '/') rest.toList :=
    splitWhere_append_cons rfl _ _
  simp [pieces, ← List.map_append, ← hsplit]

/-- A path has at least one piece. -/
theorem pieces_ne_nil (path : RepoPath) : path.pieces ≠ [] := by
  simp [pieces, splitWhere_ne_nil]

/-- A name is one piece. -/
theorem IsName.pieces {name : String} (h : IsName name) : RepoPath.pieces ⟨name⟩ = [name] := by
  unfold RepoPath.pieces
  rw [splitWhere_of_forall_not (fun c hc => by
    simpa using fun heq : c = '/' => h.noSeparator (heq ▸ hc))]
  simp

/-- A name is a component. -/
theorem IsName.innerComponent? {name : String} (h : IsName name) :
    RepoPath.innerComponent? name = some (.name name) := by
  simp [RepoPath.innerComponent?, h.ne_empty, h.ne_dot, h.ne_dots]

/-- What stands behind a text does not tell whether a path starts at the root. -/
theorem isAbsolute_append {start : String} (h : start ≠ "") (rest : String) :
    isAbsolute ⟨start ++ rest⟩ = isAbsolute ⟨start⟩ := by
  have hchars : start.toList ≠ [] := by simpa using h
  obtain ⟨c, more, hchars⟩ := List.exists_cons_of_ne_nil hchars
  simp [isAbsolute, hchars]

/-- Paths whose texts begin with the same pieces begin with the same components. The other pieces
stand for what follows. -/
theorem exists_components_of_pieces {a b : RepoPath} {front more others : List String}
    (hfront : front ≠ []) (ha : a.pieces = front ++ more) (hb : b.pieces = front ++ others)
    (habsolute : a.isAbsolute = b.isAbsolute) :
    ∃ start, a.components = start ++ more.filterMap innerComponent? ∧
      b.components = start ++ others.filterMap innerComponent? := by
  have hhead (more : List String) : (front ++ more).head? = front.head? := by
    obtain ⟨first, kept, rfl⟩ := List.exists_cons_of_ne_nil hfront
    rfl
  simp only [components, ha, hb, habsolute, List.filterMap_append, hhead]
  split
  · exact ⟨.root :: _, rfl, rfl⟩
  · split
    · exact ⟨.current :: _, rfl, rfl⟩
    · exact ⟨_, rfl, rfl⟩

/-- A name behind the pieces of a path, or in place of a last piece that does not count, is one
more component. -/
theorem components_of_pieces {path other : RepoPath} {front silent : List String} {name : String}
    (h : IsName name) (hfront : front ≠ []) (hpath : path.pieces = front ++ silent)
    (hsilent : silent.filterMap innerComponent? = []) (hother : other.pieces = front ++ [name])
    (habsolute : other.isAbsolute = path.isAbsolute) :
    other.components = path.components ++ [.name name] := by
  obtain ⟨start, hcomponents, hmore⟩ :=
    exists_components_of_pieces hfront hpath hother habsolute.symm
  rw [hcomponents, hmore, hsilent, List.append_nil]
  simp [h.innerComponent?]

/-- The path of an entry has one more component, the name of the entry. -/
theorem components_join (path : RepoPath) {name : String} (h : IsName name) :
    (path.join name).components = path.components ++ [.name name] := by
  obtain ⟨text⟩ := path
  have hhead : name.toList.head? ≠ some '/' := fun hhead =>
    h.noSeparator (List.mem_of_mem_head? hhead)
  by_cases hempty : text = ""
  · subst hempty
    have hrelative : isAbsolute ⟨name⟩ = false := by simpa [isAbsolute] using hhead
    have hname : components ⟨name⟩ = [.name name] := by
      simp [components, hrelative, h.pieces, h.ne_dot, h.innerComponent?]
    have hbase : components ⟨""⟩ = [] := rfl
    rw [hbase, List.nil_append, ← hname]
    simp [join, hhead]
  have hfirst := isAbsolute_append hempty
  by_cases hlast : text.toList.getLast? = some '/'
  · obtain ⟨start, hstart⟩ := List.getLast?_eq_some_iff.mp hlast
    obtain rfl : text = String.ofList start ++ "/" := String.toList_inj.mp (by simp [hstart])
    have hjoin : join ⟨String.ofList start ++ "/"⟩ name = ⟨String.ofList start ++ "/" ++ name⟩ := by
      simp [join, hhead]
    have hpieces : pieces ⟨String.ofList start ++ "/"⟩ = pieces ⟨String.ofList start⟩ ++ [""] := by
      have hempty : pieces ⟨""⟩ = [""] := rfl
      simpa [hempty] using pieces_append_separator (String.ofList start) ""
    rw [hjoin]
    refine components_of_pieces h (pieces_ne_nil _) hpieces rfl ?_ (hfirst name)
    rw [pieces_append_separator, h.pieces]
  · have hjoin : join ⟨text⟩ name = ⟨text ++ "/" ++ name⟩ := by
      simp [join, hhead, hempty, hlast]
    rw [hjoin]
    refine components_of_pieces h (pieces_ne_nil _) (List.append_nil _).symm rfl ?_ ?_
    · rw [pieces_append_separator, h.pieces]
    · rw [String.append_assoc, hfirst]

end RepoPath

end Conventions
