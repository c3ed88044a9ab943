import Conventions.Proofs.Config.Resolution

/-!
# What presets are made of

A preset stands for the presets that it extends, each with what that one stands for, and then for
its own declaration. Since configurations can be laid over each other in any grouping, laying a
preset over a configuration is laying these declarations over it, one after the other. Presets
extend only presets that extend nothing, so every declared preset has settings.
-/

namespace Conventions

namespace Preset

/-- The declarations that names of presets stand for, one name after the other: for each name, those
of what the preset extends, and then its own. -/
inductive Expands : List String → List Config → Prop
  | nil : Expands [] []
  | cons {name : String} {rest : List String} {preset : Config} {extended more : List Config} :
    declared? name = some preset → Expands (preset.extends?.getD []) extended →
      Expands rest more → Expands (name :: rest) (extended ++ preset :: more)

/-- Names stand for one list of declarations only. -/
theorem Expands.unique {names : List String} {presets others : List Config}
    (h : Expands names presets) (h' : Expands names others) : presets = others := by
  induction h generalizing others with
  | nil =>
    cases h'
    rfl
  | cons hpreset _ _ ihextended ihmore =>
    cases h' with
    | cons hother hextended hmore =>
      have hsame := Option.some.inj (hother.symm.trans hpreset)
      rw [hsame] at hextended ⊢
      rw [ihextended hextended, ihmore hmore]

/-- Laying a configuration over others is laying declarations over them, one after the other. -/
def IsMadeOf (config : Config) (presets : List Config) : Prop :=
  ∀ below : Config, below.Ordered → below.merge config = presets.foldl Config.merge below

/-- The settings of a preset are made of its declaration, behind those of what it extends. -/
def Settles (name : String) (config : Config) : Prop :=
  ∃ preset extended, declared? name = some preset ∧
    Expands (preset.extends?.getD []) extended ∧ IsMadeOf config (extended ++ [preset])

/-- Settings that are made of declarations are laid over others, one name after the other, like
all of these. -/
theorem exists_expands_of_mapM {settings : String → Except Failure Config}
    (hstep : ∀ name config, settings name = .ok config → Settles name config)
    {names : List String} {configs : List Config} (h : names.mapM settings = .ok configs) :
    ∃ presets, Expands names presets ∧ ∀ below : Config, below.Ordered →
      configs.foldl Config.merge below = presets.foldl Config.merge below := by
  have hall := mapM_eq_ok_iff.mp h
  clear h
  induction hall with
  | nil => exact ⟨[], .nil, fun _ _ => rfl⟩
  | cons hfirst _ ih =>
    obtain ⟨preset, extended, hpreset, hextended, hmade⟩ := hstep _ _ hfirst
    obtain ⟨more, hmore, hrest⟩ := ih
    refine ⟨extended ++ preset :: more, .cons hpreset hextended hmore, ?_⟩
    intro below hbelow
    rw [List.foldl_cons, hrest _ (hbelow.merge _), hmade below hbelow, ← List.foldl_append,
      List.append_assoc, List.singleton_append]

/-- The settings of a preset are made of the declarations that its name stands for. The preset lays
its own settings over an empty configuration and what it extends; the empty configuration makes no
difference, since something is laid over it. -/
theorem settles_of_resolveFrom {fuel : Nat} {chain : List String} {name referencedFrom : String}
    {config : Config} (h : resolveFrom chain fuel name referencedFrom = .ok config) :
    Settles name config := by
  induction fuel generalizing chain name referencedFrom config with
  | zero => cases h
  | succ fuel ih =>
    unfold resolveFrom at h
    split at h
    · cases h
    split at h
    · cases h
    next preset hpreset =>
    obtain ⟨configs, hconfigs, hconfig⟩ := bind_eq_ok_iff.mp h
    cases hconfig
    obtain ⟨extended, hextended, hsame⟩ := exists_expands_of_mapM (fun _ _ => ih) hconfigs
    refine ⟨preset, extended, hpreset, hextended, ?_⟩
    intro below hbelow
    have hempty : (below.merge {}).Ordered := hbelow.merge {}
    have hordered : (configs.foldl Config.merge {}).Ordered :=
      Config.ordered_empty.foldl_merge configs
    calc below.merge ((configs.foldl Config.merge {}).merge preset)
        = (below.merge (configs.foldl Config.merge {})).merge preset :=
          (Config.merge_assoc hbelow hordered preset).symm
      _ = (configs.foldl Config.merge (below.merge {})).merge preset := by
          rw [Config.merge_foldl_merge hbelow Config.ordered_empty]
      _ = (extended.foldl Config.merge (below.merge {})).merge preset := by rw [hsame _ hempty]
      _ = (extended ++ [preset]).foldl Config.merge (below.merge {}) := by
          rw [List.foldl_append, List.foldl_cons, List.foldl_nil]
      _ = (extended ++ [preset]).foldl Config.merge below :=
          Config.foldl_merge_merge_empty (by simp) below

/-! ### Presets that have settings -/

/-- The presets that are declared have the known names. -/
theorem mem_names_of_declared? {name : String} {preset : Config}
    (h : declared? name = some preset) : name ∈ names := by
  unfold declared? at h
  simp only [names, List.mem_cons]
  split at h
  · next hname => exact Or.inl hname
  split at h
  · next hname => exact Or.inr (Or.inl hname)
  split at h
  · next hname => exact Or.inr (Or.inr (Or.inl hname))
  split at h
  · next hname => exact Or.inr (Or.inr (Or.inr (Or.inl hname)))
  split at h
  · next hname => exact Or.inr (Or.inr (Or.inr (Or.inr (Or.inl hname))))
  · cases h

/-- Presets extend only presets that extend nothing. -/
theorem extends_of_declared? {name : String} {preset : Config} (h : declared? name = some preset)
    {parent : String} (hparent : parent ∈ preset.extends?.getD []) :
    ∃ base, declared? parent = some base ∧ base.extends? = none := by
  have hall : ∀ name ∈ names, ∀ preset ∈ declared? name, ∀ parent ∈ preset.extends?.getD [],
      ((declared? parent).any fun base => base.extends?.isNone) = true := by decide +kernel
  have hbase := hall name (mem_names_of_declared? h) preset h parent hparent
  obtain ⟨base, hdeclared, hnone⟩ := (Option.any_eq_true _ _).mp hbase
  exact ⟨base, hdeclared, Option.isNone_iff_eq_none.mp hnone⟩

/-- All rules of a declared preset exist. -/
theorem registered_of_declared? {name : String} {preset : Config}
    (h : declared? name = some preset) : preset.Registered := by
  have hall : ∀ name ∈ names, ∀ preset ∈ declared? name, ∀ rule ∈ Entries.keys preset.rules,
      (Rule.ofName? rule).isSome = true := by decide +kernel
  exact hall name (mem_names_of_declared? h) preset h

/-- All rules of the settings of a preset exist. -/
theorem registered_of_resolveFrom {fuel : Nat} {chain : List String}
    {name referencedFrom : String} {config : Config}
    (h : resolveFrom chain fuel name referencedFrom = .ok config) : config.Registered := by
  induction fuel generalizing chain name referencedFrom config with
  | zero => cases h
  | succ fuel ih =>
    unfold resolveFrom at h
    split at h
    · cases h
    split at h
    · cases h
    next preset hpreset =>
    obtain ⟨extended, hextended, hconfig⟩ := bind_eq_ok_iff.mp h
    cases hconfig
    have hall : ∀ config ∈ extended, config.Registered := by
      intro config hconfig
      obtain ⟨parent, -, hparent⟩ := exists_item_of_mapM hextended hconfig
      exact ih hparent
    exact (Config.registered_empty.foldl_merge hall).merge (registered_of_declared? hpreset)

/-- A preset that extends nothing has settings, if it is not among those that it was reached
through. -/
theorem exists_resolveFrom_of_no_extends {chain : List String} {fuel : Nat}
    {name referencedFrom : String} {preset : Config} (hchain : name ∉ chain)
    (h : declared? name = some preset) (hextends : preset.extends? = none) :
    ∃ config, resolveFrom chain (fuel + 1) name referencedFrom = .ok config := by
  refine ⟨Config.merge {} preset, ?_⟩
  unfold resolveFrom
  rw [if_neg hchain, h]
  simp [hextends, bind, Except.bind, pure, Except.pure]

/-- Every declared preset has settings. It does not extend itself, since what it extends extends
nothing. -/
theorem exists_resolve {name : String} {preset : Config} (h : declared? name = some preset)
    (referencedFrom : String) : ∃ config, resolve name referencedFrom = .ok config := by
  have hparents : ∀ parent ∈ preset.extends?.getD [],
      ∃ config, resolveFrom ([] ++ [name]) names.length parent name = .ok config := by
    intro parent hparent
    obtain ⟨base, hbase, hextends⟩ := extends_of_declared? h hparent
    refine exists_resolveFrom_of_no_extends ?_ hbase hextends
    intro hmem
    obtain rfl : parent = name := by simpa using hmem
    obtain rfl : preset = base := Option.some.inj (h.symm.trans hbase)
    rw [hextends] at hparent
    cases hparent
  obtain ⟨extended, hextended⟩ := exists_mapM_iff.mpr hparents
  refine ⟨(extended.foldl Config.merge {}).merge preset, ?_⟩
  unfold resolve resolveFrom
  rw [if_neg List.not_mem_nil, h]
  exact bind_eq_ok_iff.mpr ⟨extended, hextended, rfl⟩

/-- A preset has no settings exactly if none of its name is declared, and then this is why. In
particular, presets do not extend each other in circles. -/
theorem resolve_eq_error_iff {name referencedFrom : String} {failure : Failure} :
    resolve name referencedFrom = .error failure ↔
      declared? name = none ∧ failure = .unknownPreset name referencedFrom := by
  cases h : declared? name with
  | none =>
    unfold resolve resolveFrom
    rw [if_neg List.not_mem_nil, h]
    simp [eq_comm]
  | some preset =>
    obtain ⟨config, hconfig⟩ := exists_resolve h referencedFrom
    simp [hconfig]

end Preset

/-- Configurations can be laid over each other in any grouping. So where a preset has settings, the
declarations that it stands for are settled, those of what it extends before its own, and laying
the preset over a configuration is laying these over it, one after the other. -/
theorem Config.merge_regroups :
    (∀ a b c : Config, a.Ordered → b.Ordered → (a.merge b).merge c = a.merge (b.merge c)) ∧
      ∀ (config preset : Config) (name referencedFrom : String), config.Ordered →
        Preset.resolve name referencedFrom = .ok preset →
          ∃ presets, (∀ others, Preset.Expands [name] others ↔ others = presets) ∧
            config.merge preset = presets.foldl Config.merge config := by
  constructor
  · intro a b c ha hb
    exact merge_assoc ha hb c
  · intro config preset name referencedFrom hconfig hpreset
    obtain ⟨declared, extended, hdeclared, hextended, hmade⟩ :=
      Preset.settles_of_resolveFrom hpreset
    have hexpands : Preset.Expands [name] (extended ++ [declared]) :=
      .cons hdeclared hextended .nil
    refine ⟨extended ++ [declared], fun others => ?_, hmade config hconfig⟩
    constructor
    · intro hothers
      exact hothers.unique hexpands
    · rintro rfl
      exact hexpands

/-- A configuration that switches a rule off and has a marker. -/
def Config.markedWithoutUniqueNames : Config where
  markers? := some ["p"]
  rules? := some [("module-unique-name", .disabled)]

/-- The recommended preset stands for five declarations, the first of which switches the rule on
again. It does not matter whether they are laid over a configuration as one, or over each
other. -/
theorem Config.merge_regroups_recommended :
    ∃ preset presets, Preset.resolve Preset.recommended "config" = .ok preset ∧
      Preset.Expands [Preset.recommended] presets ∧
      presets.map (·.rules.length) = [3, 1, 1, 0, 0] ∧
      markedWithoutUniqueNames.merge preset =
        presets.foldl Config.merge markedWithoutUniqueNames ∧
      (markedWithoutUniqueNames.merge preset).ruleEnabled "module-unique-name" = true ∧
      (markedWithoutUniqueNames.merge {}).merge preset =
        markedWithoutUniqueNames.merge (Config.merge {} preset) := by
  have hrun : ((Preset.resolve Preset.recommended "config").toOption.any fun preset =>
      (markedWithoutUniqueNames.merge preset).ruleEnabled "module-unique-name") = true := by
    decide +kernel
  obtain ⟨preset, hpreset, hon⟩ := exists_ok_of_any hrun
  have hordered : markedWithoutUniqueNames.Ordered := List.pairwise_singleton _ _
  obtain ⟨hassoc, hregroups⟩ := Config.merge_regroups
  obtain ⟨presets, hexpands, hmerge⟩ :=
    hregroups markedWithoutUniqueNames preset Preset.recommended "config" hordered hpreset
  have hdeclared : Preset.Expands [Preset.recommended] _ :=
    .cons rfl (.cons rfl .nil (.cons rfl .nil (.cons rfl .nil (.cons rfl .nil .nil)))) .nil
  obtain rfl := (hexpands _).mp hdeclared
  exact ⟨preset, _, hpreset, hdeclared, by decide +kernel, hmerge, hon,
    hassoc _ _ _ hordered Config.ordered_empty⟩

end Conventions
