import Conventions.Proofs.Path.Parent
import Mathlib.Data.List.Basic
import Mathlib.Logic.Relation

/-!
# Spellings of a path

A separator behind another one, a dot behind a separator and a separator at the end of a path can
be left out of its text. This does not change its components, and it leads from every text to the
plain one of its components. So two paths have the same components if they can be brought to the
same text, and a path contains those that are spelled as it with something more behind a separator.
-/

namespace Conventions

/-- How a component is written. The root is the empty text in front of the first separator. -/
def Component.text : Component → String
  | .root => ""
  | .current => "."
  | .parent => ".."
  | .name text => text

namespace RepoPath

/-- What can be left out of the text of a path: a doubled separator, a dot between separators, and
a separator at the end with or without a dot. The separator of the root stays. -/
inductive Shortens : RepoPath → RepoPath → Prop
  | between (start rest : String) {piece : String} (h : piece = "" ∨ piece = ".") :
      Shortens ⟨start ++ "/" ++ piece ++ "/" ++ rest⟩ ⟨start ++ "/" ++ rest⟩
  | last {start piece : String} (hstart : start ≠ "") (h : piece = "" ∨ piece = ".") :
      Shortens ⟨start ++ "/" ++ piece⟩ ⟨start⟩
  | root : Shortens ⟨"/."⟩ ⟨"/"⟩

/-- Two paths are spellings of one path if what does not count can be left out of their texts
until these are the same. -/
def Respelled : RepoPath → RepoPath → Prop := Relation.Join (Relation.ReflTransGen Shortens)

/-! ### What is left out does not count -/

/-- What stands behind the first separator does not tell where a path starts. -/
theorem isAbsolute_append_separator (start rest : String) :
    isAbsolute ⟨start ++ "/" ++ rest⟩ = isAbsolute ⟨start ++ "/"⟩ :=
  isAbsolute_append (by simp) rest

/-- Behind a text and a separator, two texts stand for the same if their pieces do. -/
theorem components_append_separator_congr (start : String) {rest other : String}
    (h : (pieces ⟨rest⟩).filterMap innerComponent? = (pieces ⟨other⟩).filterMap innerComponent?) :
    components ⟨start ++ "/" ++ rest⟩ = components ⟨start ++ "/" ++ other⟩ := by
  obtain ⟨front, hrest, hother⟩ := exists_components_of_pieces (pieces_ne_nil ⟨start⟩)
    (pieces_append_separator start rest) (pieces_append_separator start other)
    (by rw [isAbsolute_append_separator, isAbsolute_append_separator])
  rw [hrest, hother, h]

/-- Behind a text that is not empty, the pieces of another text stand for more components. -/
theorem components_append_separator {start : String} (h : start ≠ "") (rest : String) :
    components ⟨start ++ "/" ++ rest⟩ =
      components ⟨start⟩ ++ (pieces ⟨rest⟩).filterMap innerComponent? := by
  obtain ⟨front, hmore, hstart⟩ := exists_components_of_pieces (pieces_ne_nil ⟨start⟩)
    (pieces_append_separator start rest) (List.append_nil _).symm
    (by rw [String.append_assoc, isAbsolute_append h])
  rw [hmore, hstart, List.filterMap_nil, List.append_nil]

/-- A piece stands for no component if it is empty or a dot. -/
theorem innerComponent?_eq_none_iff {piece : String} :
    innerComponent? piece = none ↔ piece = "" ∨ piece = "." := by
  unfold innerComponent?
  split
  · simp [*]
  · split <;> simp [*]

/-- An empty text and a dot stand for nothing behind a separator. -/
theorem filterMap_pieces_of_silent {piece : String} (h : piece = "" ∨ piece = ".") :
    (pieces ⟨piece⟩).filterMap innerComponent? = [] := by
  rcases h with rfl | rfl <;> rfl

/-- Leaving out what does not count keeps the components. -/
theorem Shortens.components_eq {a b : RepoPath} (h : Shortens a b) :
    a.components = b.components := by
  cases h with
  | @between start rest piece hpiece =>
    have htext : start ++ "/" ++ piece ++ "/" ++ rest = start ++ "/" ++ (piece ++ "/" ++ rest) := by
      simp only [String.append_assoc]
    rw [htext]
    apply components_append_separator_congr
    rw [pieces_append_separator, List.filterMap_append, filterMap_pieces_of_silent hpiece,
      List.nil_append]
  | last hstart hpiece =>
    rw [components_append_separator hstart, filterMap_pieces_of_silent hpiece, List.append_nil]
  | root => rfl

/-- Leaving out several times what does not count keeps the components. -/
theorem components_of_shortens {a b : RepoPath} (h : Relation.ReflTransGen Shortens a b) :
    a.components = b.components := by
  induction h with
  | refl => rfl
  | tail _ hstep ih => exact ih.trans hstep.components_eq

/-! ### The plain text of components -/

/-- The text of components without anything that does not count. The root alone is a separator. -/
def plain (components : List Component) : RepoPath :=
  if components = [.root] then ⟨"/"⟩ else ⟨"/".intercalate (components.map Component.text)⟩

/-- A piece that stands for a component is the text of this component, which is not the root. -/
theorem text_of_innerComponent? {piece : String} {component : Component}
    (h : innerComponent? piece = some component) :
    component.text = piece ∧ component ≠ .root := by
  unfold innerComponent? at h
  split at h
  · cases h
  · split at h
    · next hdots =>
      cases h
      exact ⟨hdots.symm, by simp⟩
    · cases h
      exact ⟨rfl, by simp⟩

/-- Texts joined with separators are empty only if there is no text or an empty one alone. -/
theorem intercalate_eq_empty {parts : List String} (h : "/".intercalate parts = "") :
    parts = [] ∨ parts = [""] := by
  cases parts with
  | nil => exact .inl rfl
  | cons part rest =>
    cases rest with
    | nil =>
      rw [String.intercalate_singleton] at h
      exact .inr (by rw [h])
    | cons next more =>
      rw [String.intercalate_cons_of_ne_nil (List.cons_ne_nil next more)] at h
      simp [String.append_eq_empty_iff] at h

/-- The pieces between the occurrences of a character, joined with it, are the text. -/
theorem intercalate_splitWhere (c : Char) (text : List Char) :
    [c].intercalate (Text.splitWhere (· == c) text) = text := by
  induction text with
  | nil => rfl
  | cons d rest ih =>
    have hne := splitWhere_ne_nil (· == c) rest
    rw [Text.splitWhere]
    by_cases hd : (d == c) = true
    · rw [if_pos hd, List.intercalate_cons_of_ne_nil hne, ih, beq_iff_eq.mp hd]
      rfl
    · rw [if_neg hd]
      cases hpieces : Text.splitWhere (· == c) rest with
      | nil => exact absurd hpieces hne
      | cons piece pieces =>
        rw [hpieces] at ih
        rw [List.intercalate_cons_cons_left, ih]

/-- A path is the pieces of its text, joined with separators. -/
theorem intercalate_pieces (path : RepoPath) : "/".intercalate path.pieces = path.text := by
  have hchars : path.pieces.map String.toList = Text.splitWhere (· == '/') path.text.toList := by
    simp [pieces, Function.comp_def]
  apply String.toList_inj.mp
  rw [String.toList_intercalate, hchars]
  exact intercalate_splitWhere '/' _

/-- A piece that does not count can be left out between others. -/
theorem shortens_between {front more : List String} {piece : String} (hfront : front ≠ [])
    (hmore : more ≠ []) (hpiece : innerComponent? piece = none) :
    Shortens ⟨"/".intercalate (front ++ piece :: more)⟩ ⟨"/".intercalate (front ++ more)⟩ := by
  rw [String.intercalate_append_of_ne_nil hfront (List.cons_ne_nil piece more),
    String.intercalate_append_of_ne_nil hfront hmore, String.intercalate_cons_of_ne_nil hmore]
  rw [← String.append_assoc, ← String.append_assoc]
  exact .between _ _ (innerComponent?_eq_none_iff.mp hpiece)

/-- A last piece that does not count can be left out if the path is not the root. -/
theorem shortens_last {front : List String} {piece : String} (hfront : front ≠ [])
    (hroot : front ≠ [""]) (hpiece : innerComponent? piece = none) :
    Shortens ⟨"/".intercalate (front ++ [piece])⟩ ⟨"/".intercalate front⟩ := by
  have hne : "/".intercalate front ≠ "" := fun h =>
    (intercalate_eq_empty h).elim hfront hroot
  rw [String.intercalate_append_of_ne_nil hfront (List.cons_ne_nil piece []),
    String.intercalate_singleton]
  exact .last hne (innerComponent?_eq_none_iff.mp hpiece)

/-- Behind other pieces, everything that does not count can be left out. The root does not lose
its only separator. -/
theorem shortens_to_counting {front rest : List String} (hfront : front ≠ [])
    (hroot : front = [""] → rest.filterMap innerComponent? ≠ []) :
    Relation.ReflTransGen Shortens ⟨"/".intercalate (front ++ rest)⟩
      ⟨"/".intercalate (front ++ (rest.filterMap innerComponent?).map Component.text)⟩ := by
  -- The pieces in front stay. The next one is left out, or it counts and stays as well.
  induction rest generalizing front with
  | nil => exact .refl
  | cons piece rest ih =>
    cases hpiece : innerComponent? piece with
    | none =>
      rw [List.filterMap_cons_none hpiece] at hroot ⊢
      by_cases hrest : rest = []
      · subst hrest
        exact .single (by simpa using shortens_last hfront (fun heq => hroot heq rfl) hpiece)
      · exact .head (shortens_between hfront hrest hpiece) (ih hfront hroot)
    | some component =>
      obtain ⟨htext, -⟩ := text_of_innerComponent? hpiece
      have hlonger : front ++ [piece] = [""] → rest.filterMap innerComponent? ≠ [] := by
        intro heq
        exact absurd (List.append_eq_singleton_iff.mp heq) (by simp [hfront])
      have h := ih (List.append_ne_nil_of_right_ne_nil front (List.cons_ne_nil piece [])) hlonger
      rw [List.filterMap_cons_some hpiece, List.map_cons, htext]
      simpa using h

/-- If nothing counts behind the root, everything behind its separator can be left out. -/
theorem shortens_to_root {rest : List String} (hne : rest ≠ [])
    (h : rest.filterMap innerComponent? = []) :
    Relation.ReflTransGen Shortens ⟨"/".intercalate ("" :: rest)⟩ ⟨"/"⟩ := by
  induction rest with
  | nil => exact absurd rfl hne
  | cons piece rest ih =>
    have hsilent := List.filterMap_eq_nil_iff.mp h
    have hpiece := hsilent piece List.mem_cons_self
    by_cases hrest : rest = []
    · subst hrest
      rcases innerComponent?_eq_none_iff.mp hpiece with rfl | rfl
      · exact .refl
      · exact .single .root
    · have hfirst := shortens_between (List.cons_ne_nil "" []) hrest hpiece
      rw [List.filterMap_cons_none hpiece] at h
      exact .head hfirst (ih hrest h)

/-- If a text begins with an empty piece, this is not its only piece, or the text is empty. -/
theorem rest_ne_nil_of_pieces {path : RepoPath} {rest : List String} (h : path.text ≠ "")
    (hpieces : path.pieces = "" :: rest) : rest ≠ [] := by
  rintro rfl
  apply h
  rw [← intercalate_pieces, hpieces, String.intercalate_singleton]

/-- The first piece of a text that is not empty is the text of the first component, the root if this
piece is empty. The other pieces stand for the components behind it. -/
theorem exists_components_cons {path : RepoPath} {first : String} {rest : List String}
    (h : path.text ≠ "") (hpieces : path.pieces = first :: rest) :
    ∃ component, path.components = component :: rest.filterMap innerComponent? ∧
      component.text = first ∧ (component = .root ↔ first = "") := by
  rw [components_of_pieces_cons hpieces]
  by_cases hempty : first = ""
  · subst hempty
    have habsolute := (isAbsolute_iff hpieces).mpr ⟨rfl, rest_ne_nil_of_pieces h hpieces⟩
    rw [habsolute]
    exact ⟨.root, rfl, rfl, by simp⟩
  have hrelative : path.isAbsolute = false := by
    rw [← Bool.not_eq_true, isAbsolute_iff hpieces]
    exact fun habsolute => hempty habsolute.1
  rw [hrelative]
  by_cases hcurrent : first = "."
  · subst hcurrent
    exact ⟨.current, rfl, rfl, by simp⟩
  · cases hcomponent : innerComponent? first with
    | none =>
      have hsilent := innerComponent?_eq_none_iff.mp hcomponent
      exact absurd hsilent (not_or.mpr ⟨hempty, hcurrent⟩)
    | some component =>
      obtain ⟨htext, hroot⟩ := text_of_innerComponent? hcomponent
      have hfirst : firstComponent? false first = some component := by
        simp [firstComponent?, hcurrent, hcomponent]
      rw [hfirst]
      exact ⟨component, rfl, htext, by simp [hroot, hempty]⟩

/-- From every text what does not count can be left out until it is the plain one. -/
theorem shortens_to_plain (path : RepoPath) :
    Relation.ReflTransGen Shortens path (plain path.components) := by
  by_cases hempty : path.text = ""
  · obtain rfl : path = ⟨""⟩ := by rw [← hempty]
    exact .refl
  obtain ⟨first, rest, hpieces⟩ := List.exists_cons_of_ne_nil path.pieces_ne_nil
  obtain ⟨component, hcomponents, htext, hroot⟩ := exists_components_cons hempty hpieces
  have hpath : path = ⟨"/".intercalate (first :: rest)⟩ := by
    rw [← hpieces, intercalate_pieces]
  by_cases halone : first = "" ∧ rest.filterMap innerComponent? = []
  · obtain ⟨rfl, hrest⟩ := halone
    have hplain : plain path.components = ⟨"/"⟩ := by
      rw [hcomponents, hroot.mpr rfl, hrest]
      rfl
    rw [hplain, hpath]
    exact shortens_to_root (rest_ne_nil_of_pieces hempty hpieces) hrest
  · have hplain : plain path.components =
        ⟨"/".intercalate ([first] ++ (rest.filterMap innerComponent?).map Component.text)⟩ := by
      have hne : path.components ≠ [.root] := by
        rw [hcomponents]
        intro heq
        obtain ⟨hcomponent, hrest⟩ := List.cons.inj heq
        exact halone ⟨hroot.mp hcomponent, hrest⟩
      rw [plain, if_neg hne, hcomponents, List.map_cons, htext]
      rfl
    have hcounting := shortens_to_counting (List.cons_ne_nil first [])
      fun hseparator hrest => halone ⟨List.singleton_inj.mp hseparator, hrest⟩
    rw [hplain]
    rwa [List.singleton_append, ← hpath] at hcounting

/-! ### The same path, and what it contains -/

/-- The plain text is a spelling of the path. -/
theorem respelled_plain (path : RepoPath) : (plain path.components).Respelled path :=
  ⟨plain path.components, .refl, shortens_to_plain path⟩

example : plain (components ⟨"./a//b/./../c/."⟩) = ⟨"./a/b/../c"⟩ := by decide

/-- Two paths have the same components if and only if they are spellings of one path. -/
theorem components_eq_iff_respelled {a b : RepoPath} :
    a.components = b.components ↔ a.Respelled b := by
  constructor
  · intro h
    refine ⟨plain a.components, shortens_to_plain a, ?_⟩
    rw [h]
    exact shortens_to_plain b
  · rintro ⟨common, ha, hb⟩
    rw [components_of_shortens ha, components_of_shortens hb]

/-- Only the path with the empty text has no components. -/
theorem components_eq_nil_iff {path : RepoPath} : path.components = [] ↔ path.text = "" := by
  constructor
  · intro hnone
    by_contra h
    obtain ⟨first, rest, hpieces⟩ := List.exists_cons_of_ne_nil path.pieces_ne_nil
    obtain ⟨component, hcomponents, -⟩ := exists_components_cons h hpieces
    rw [hnone] at hcomponents
    cases hcomponents
  · intro hempty
    obtain rfl : path = ⟨""⟩ := by rw [← hempty]
    rfl

/-- The components behind the first one stand in pieces behind a separator. -/
theorem exists_piece_of_mem_tail {path : RepoPath} {component : Component}
    (h : component ∈ path.components.tail) :
    ∃ piece ∈ path.pieces, innerComponent? piece = some component := by
  by_cases hempty : path.text = ""
  · rw [components_eq_nil_iff.mpr hempty] at h
    cases h
  obtain ⟨first, rest, hpieces⟩ := List.exists_cons_of_ne_nil path.pieces_ne_nil
  obtain ⟨start, hcomponents, -⟩ := exists_components_cons hempty hpieces
  rw [hcomponents, List.tail_cons] at h
  obtain ⟨piece, hpiece, hinner⟩ := List.mem_filterMap.mp h
  exact ⟨piece, by simp [hpieces, hpiece], hinner⟩

/-- Texts of components that stand behind a separator are read as these components. -/
theorem filterMap_pieces_intercalate {path : RepoPath} {behind : List Component}
    (h : ∀ component ∈ behind, ∃ piece ∈ path.pieces, innerComponent? piece = some component) :
    (pieces ⟨"/".intercalate (behind.map Component.text)⟩).filterMap innerComponent? = behind := by
  by_cases hempty : behind = []
  · subst hempty
    rfl
  have hparts : ∀ part ∈ behind.map Component.text, '/' ∉ part.toList := by
    intro part hpart
    obtain ⟨component, hcomponent, rfl⟩ := List.mem_map.mp hpart
    obtain ⟨piece, hpiece, hinner⟩ := h component hcomponent
    rw [(text_of_innerComponent? hinner).1]
    exact noSeparator_of_mem_pieces hpiece
  rw [pieces_intercalate (by simpa using hempty) hparts, List.filterMap_map]
  have hread : ∀ component ∈ behind,
      (innerComponent? ∘ Component.text) component = some component := by
    intro component hcomponent
    obtain ⟨piece, -, hinner⟩ := h component hcomponent
    rw [Function.comp_apply, (text_of_innerComponent? hinner).1, hinner]
  rw [List.filterMap_congr hread, List.filterMap_some]

/-- A path that is not empty contains those that are spelled as it with a separator and any text
behind. -/
theorem contains_iff_respelled {path other : RepoPath} (h : path.text ≠ "") :
    path.contains other = true ↔ ∃ rest, Respelled ⟨path.text ++ "/" ++ rest⟩ other := by
  have hbelow (rest : String) : components ⟨path.text ++ "/" ++ rest⟩ =
      path.components ++ (pieces ⟨rest⟩).filterMap innerComponent? :=
    components_append_separator h rest
  simp only [← components_eq_iff_respelled, hbelow, contains_iff]
  constructor
  · rintro ⟨behind, hbehind⟩
    have hpieces : ∀ component ∈ behind,
        ∃ piece ∈ other.pieces, innerComponent? piece = some component := by
      intro component hcomponent
      apply exists_piece_of_mem_tail
      rw [← hbehind, List.tail_append_of_ne_nil (mt components_eq_nil_iff.mp h)]
      exact List.mem_append_right _ hcomponent
    exact ⟨_, by rw [filterMap_pieces_intercalate hpieces, hbehind]⟩
  · rintro ⟨rest, hrest⟩
    exact ⟨_, hrest⟩

end RepoPath

end Conventions
