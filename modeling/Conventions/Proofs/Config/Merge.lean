import Conventions.Config.Preset
import Conventions.Config.Resolution
import Conventions.Proofs.Entries
import Conventions.Proofs.Json.Record

/-!
# Configurations laid over each other

What is left of several configurations that are laid over a first one: of each rule the
last setting, of the markers all, and of the other switches the last one that was set.
-/

namespace Conventions

namespace Config

/-- The rules of a configuration are in order, so none of them is set twice. -/
def Ordered (config : Config) : Prop := config.rules.Ascending

/-- A configuration that says nothing has no rules. -/
theorem ordered_empty : ({} : Config).Ordered := List.Pairwise.nil

/-- The rules stay in order when others are laid over them. -/
theorem Ordered.merge {parent : Config} (h : parent.Ordered) (child : Config) :
    (parent.merge child).Ordered :=
  Entries.Ascending.foldl_insertSorted h child.rules

/-- The rules stay in order however many configurations are laid over them. -/
theorem Ordered.foldl_merge {config : Config} (h : config.Ordered) (children : List Config) :
    (children.foldl Config.merge config).Ordered := by
  induction children generalizing config with
  | nil => exact h
  | cons child rest ih => exact ih (h.merge child)

/-- A rule that is set over others laid over each other can be set over the upper ones first. -/
theorem insertSorted_overRules {a b : Entries RuleSetting} (ha : a.Ascending) (hb : b.Ascending)
    (name : String) (setting : RuleSetting) :
    Entries.insertSorted name setting (overRules a b) =
      overRules a (Entries.insertSorted name setting b) := by
  have hover : (overRules a b).Ascending := Entries.Ascending.foldl_insertSorted ha b
  have hset := hb.insertSorted name setting
  refine (hover.insertSorted name setting).ext (Entries.Ascending.foldl_insertSorted ha _) ?_
  intro key
  simp only [overRules, Entries.find?_insertSorted, Entries.find?_foldl_insertSorted hb,
    Entries.find?_foldl_insertSorted hset]
  split
  · rfl
  · rfl

/-- Rules can be laid over each other from below or from above. -/
theorem overRules_assoc {a b : Entries RuleSetting} (ha : a.Ascending) (hb : b.Ascending)
    (c : Entries RuleSetting) : overRules (overRules a b) c = overRules a (overRules b c) := by
  induction c generalizing b with
  | nil => rfl
  | cons entry rest ih =>
    have hset := hb.insertSorted entry.1 entry.2
    calc overRules (overRules a b) (entry :: rest)
        = overRules (Entries.insertSorted entry.1 entry.2 (overRules a b)) rest := rfl
      _ = overRules (overRules a (Entries.insertSorted entry.1 entry.2 b)) rest := by
        rw [insertSorted_overRules ha hb]
      _ = overRules a (overRules (Entries.insertSorted entry.1 entry.2 b) rest) := ih hset

/-- Configurations can be laid over each other from below or from above. -/
theorem merge_assoc {a b : Config} (ha : a.Ordered) (hb : b.Ordered) (c : Config) :
    (a.merge b).merge c = a.merge (b.merge c) := by
  have hmarkers : a.markers ++ b.markers ++ c.markers = a.markers ++ (b.markers ++ c.markers) :=
    List.append_assoc _ _ _
  have hrules : overRules (overRules a.rules b.rules) c.rules =
      overRules a.rules (overRules b.rules c.rules) := overRules_assoc ha hb c.rules
  have hswitch : c.useGitignore?.or (b.useGitignore?.or a.useGitignore?) =
      (c.useGitignore?.or b.useGitignore?).or a.useGitignore? := Option.or_assoc.symm
  simp only [merge, Option.orElse_eq_orElse, Option.orElse_eq_or, hswitch]
  congr 2

/-- What is laid over a configuration one after the other can first be laid over another one, and
this over the configuration. -/
theorem merge_foldl_merge {config first : Config} (h : config.Ordered) (hfirst : first.Ordered)
    (children : List Config) :
    config.merge (children.foldl Config.merge first) =
      children.foldl Config.merge (config.merge first) := by
  induction children generalizing first with
  | nil => rfl
  | cons child rest ih =>
    rw [List.foldl_cons, ih (hfirst.merge child), List.foldl_cons, merge_assoc h hfirst]

/-- A configuration that says nothing makes no difference below others. -/
theorem foldl_merge_merge_empty {children : List Config} (h : children ≠ []) (config : Config) :
    children.foldl Config.merge (config.merge {}) = children.foldl Config.merge config := by
  obtain ⟨child, rest, rfl⟩ := List.exists_cons_of_ne_nil h
  have hmarkers : (config.merge {}).markers = config.markers := List.append_nil _
  have hfirst : (config.merge {}).merge child = config.merge child := by
    rw [merge.eq_1 (config.merge {}), hmarkers]
    rfl
  rw [List.foldl_cons, hfirst, List.foldl_cons]

/-- A rule has the setting of the child if this has one, and else that of the parent. -/
theorem rule?_merge {child : Config} (h : child.Ordered) (parent : Config) (name : String) :
    (parent.merge child).rule? name = (child.rule? name).or (parent.rule? name) :=
  Entries.find?_foldl_insertSorted h parent.rules name

/-- The rules of a configuration laid over another one are set in one of both. -/
theorem mem_keys_merge {parent child : Config} {name : String}
    (h : name ∈ Entries.keys (parent.merge child).rules) :
    name ∈ Entries.keys child.rules ∨ name ∈ Entries.keys parent.rules := by
  obtain ⟨entry, hentry, rfl⟩ := List.mem_map.mp h
  rcases Entries.mem_foldl_insertSorted hentry with hchild | hparent
  · exact Or.inl (List.mem_map_of_mem hchild)
  · exact Or.inr (List.mem_map_of_mem hparent)

/-- A rule has the last of its settings. -/
theorem rule?_foldl_merge {children : List Config} (h : ∀ child ∈ children, child.Ordered)
    (config : Config) (name : String) :
    (children.foldl Config.merge config).rule? name =
      (children.reverse.findSome? fun child => child.rule? name).or (config.rule? name) := by
  induction children generalizing config with
  | nil => rfl
  | cons child rest ih =>
    have hrest : ∀ other ∈ rest, other.Ordered := fun other hother =>
      h other (List.mem_cons_of_mem _ hother)
    rw [List.foldl_cons, ih hrest, rule?_merge (h child (by simp)), List.reverse_cons,
      List.findSome?_append, Option.or_assoc]
    simp

/-- All markers are kept, those of the parents first. -/
theorem markers_foldl_merge (children : List Config) (config : Config) :
    (children.foldl Config.merge config).markers =
      config.markers ++ children.flatMap Config.markers := by
  induction children generalizing config with
  | nil => simp
  | cons child rest ih =>
    rw [List.foldl_cons, ih, List.flatMap_cons, ← List.append_assoc]
    rfl

/-- Whether the ignore file of the version control counts is what the last of the
configurations says about it. -/
theorem useGitignore?_foldl_merge (children : List Config) (config : Config) :
    (children.foldl Config.merge config).useGitignore? =
      (children.reverse.findSome? Config.useGitignore?).or config.useGitignore? := by
  induction children generalizing config with
  | nil => rfl
  | cons child rest ih =>
    have hmerge : (config.merge child).useGitignore? =
        child.useGitignore?.or config.useGitignore? := Option.orElse_eq_or
    rw [List.foldl_cons, ih, hmerge, List.reverse_cons, List.findSome?_append, Option.or_assoc]
    simp

/-- Laying configurations over others sets all fields but the presets. -/
theorem foldl_merge_fields {children : List Config} (h : children ≠ []) (config : Config) :
    (children.foldl Config.merge config).extends? = none ∧
      (children.foldl Config.merge config).markers? =
        some (children.foldl Config.merge config).markers := by
  induction children generalizing config with
  | nil => exact absurd rfl h
  | cons child rest ih =>
    by_cases hrest : rest = []
    · subst hrest
      exact ⟨rfl, rfl⟩
    · exact ih hrest (config.merge child)

/-- Each field of a config file leaves the rules in order. -/
theorem shape_preserves_ordered : shape.Preserves Ordered := by
  intro field hfield depth node record result hrecord h
  simp only [shape, List.mem_cons, List.not_mem_nil, or_false] at hfield
  rcases hfield with rfl | rfl | rfl | rfl
  · obtain ⟨markers, -, h⟩ := bind_eq_ok_iff.mp h
    cases h
    exact hrecord
  · obtain ⟨useGitignore, -, h⟩ := bind_eq_ok_iff.mp h
    cases h
    exact hrecord
  · obtain ⟨names, -, h⟩ := bind_eq_ok_iff.mp h
    cases h
    exact hrecord
  · obtain ⟨rules, -, h⟩ := bind_eq_ok_iff.mp h
    cases h
    cases rules with
    | none => exact List.Pairwise.nil
    | some pairs => exact Entries.ascending_sorted pairs

/-- The rules in a config file are in order once it is read. -/
theorem ordered_of_parse {text : String} {config : Config} (h : parse text = .ok config) :
    config.Ordered := by
  obtain ⟨value, hvalue, h⟩ := bind_eq_ok_iff.mp h
  have hordered : value.Ordered :=
    Json.RecordShape.read_preserves shape_preserves_ordered ordered_empty hvalue
  split at h
  · cases h
    exact hordered
  · cases h

/-- The rules of a config that is loaded are in order. -/
theorem ordered_of_load {workspace : Workspace} {file : RepoPath} {config : Config}
    (h : load workspace file = .ok config) : config.Ordered := by
  unfold load at h
  split at h
  · cases h
  · split at h
    · cases h
    · next hparse =>
      cases h
      exact ordered_of_parse hparse

end Config

/-- The rules of a preset are in order. -/
theorem Preset.ordered_of_resolveFrom {chain : List String} {fuel : Nat}
    {name referencedFrom : String} {config : Config}
    (h : Preset.resolveFrom chain fuel name referencedFrom = .ok config) : config.Ordered := by
  cases fuel with
  | zero => cases h
  | succ fuel =>
    unfold Preset.resolveFrom at h
    split at h
    · cases h
    · split at h
      · cases h
      · next preset hpreset =>
        obtain ⟨extended, -, h⟩ := bind_eq_ok_iff.mp h
        cases h
        exact (Config.ordered_empty.foldl_merge extended).merge preset

end Conventions
