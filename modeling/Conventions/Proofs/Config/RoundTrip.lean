import Conventions.Proofs.Config.Merge
import Conventions.Proofs.Json.Field
import Conventions.Proofs.Json.Layout
import Conventions.Proofs.Json.Tables

/-!
# Texts of configurations

A configuration that was read is in order, and each of its rules has a setting that some text has.
Both stay true when it is laid over another one, so the text of what is left is read as it.
-/

namespace Conventions

open Json

/-! ### Settings that some text has -/

/-- A setting that is read from the value that stands for it. In a text this is three levels deep:
inside of the rules of a config. -/
def RuleSetting.IsKept (setting : RuleSetting) : Prop :=
  RuleSetting.read (some 126) .nowhere (Node.ofJson setting.toJson) = .ok setting

namespace RuleSetting

/-- A setting is read as what its value stands for. -/
theorem read_eq_ok_iff {depth : Depth} {place : Mark} {node : Node} {setting : RuleSetting} :
    RuleSetting.read depth place node = .ok setting ↔
      ∃ value, node.value depth = .ok value ∧ ofJson value = .ok setting := by
  refine bind_eq_ok_iff.trans (exists_congr fun value => and_congr_right fun _ => ?_)
  cases ofJson value with
  | ok found =>
    constructor <;>
    · intro h
      cases h
      rfl
  | error reason => exact iff_of_false (fun h => nomatch h) (fun h => nomatch h)

/-- A setting that is read is kept. -/
theorem isKept_of_read {place : Mark} {node : Node} {setting : RuleSetting}
    (h : RuleSetting.read (some 126) place node = .ok setting) : setting.IsKept := by
  obtain ⟨value, hvalue, hsetting⟩ := read_eq_ok_iff.mp h
  have hread : ReadsWithin (some 126) value :=
    readsWithin_of_value (Depth.AtLeast.refl (some 126)) node hvalue
  unfold ofJson at hsetting
  split at hsetting <;> cases hsetting
  case h_5 | h_6 => exact read_eq_ok_iff.mpr ⟨_, hread, rfl⟩
  all_goals rfl

/-- Where a setting stands matters only for the fault if it is none. -/
theorem ignoresPlaces_read (depth : Depth) : IgnoresPlaces (RuleSetting.read depth) := by
  intro node setting h place
  obtain ⟨value, hvalue, hsetting⟩ := read_eq_ok_iff.mp h
  exact read_eq_ok_iff.mpr ⟨value, ignoresMarks_value depth node value hvalue, hsetting⟩

end RuleSetting

namespace Config

/-- The rules are in order, and all their settings are kept. -/
structure Keeps (config : Config) : Prop where
  ordered : config.Ordered
  settings : ∀ entry ∈ config.rules, entry.2.IsKept

/-- A configuration that says nothing has no settings. -/
theorem keeps_empty : ({} : Config).Keeps := ⟨ordered_empty, List.forall_mem_nil _⟩

/-- What is left of two configurations has the settings of both. -/
theorem Keeps.merge {parent child : Config} (h : parent.Keeps) (hchild : child.Keeps) :
    (parent.merge child).Keeps := by
  refine ⟨h.ordered.merge child, fun entry hentry => ?_⟩
  rcases Entries.mem_foldl_insertSorted hentry with hover | hunder
  · exact hchild.settings entry hover
  · exact h.settings entry hunder

/-- The settings in a text are kept. -/
theorem isKept_of_mapRead (fields : Fields) {pairs : List (String × RuleSetting)}
    (h : fields.mapRead (RuleSetting.read (some 126)) = .ok pairs) :
    ∀ pair ∈ pairs, pair.2.IsKept := by
  match fields with
  | .done =>
    cases h
    exact List.forall_mem_nil _
  | .broken fault => cases h
  | .field key keyMark value valueMark rest =>
    obtain ⟨name, -, h⟩ := bind_eq_ok_iff.mp h
    obtain ⟨setting, hsetting, h⟩ := bind_eq_ok_iff.mp h
    obtain ⟨others, hothers, h⟩ := bind_eq_ok_iff.mp h
    cases h
    exact List.forall_mem_cons.mpr
      ⟨RuleSetting.isKept_of_read hsetting, isKept_of_mapRead rest hothers⟩

/-- The rules of a text are kept, if it has any. -/
theorem isKept_of_asOptional {node : Node} {rules? : Option (List (String × RuleSetting))}
    (h : node.asOptional (Node.asTable (some 127) RuleSetting.read) = .ok rules?) :
    ∀ rules ∈ rules?, ∀ entry ∈ rules, entry.2.IsKept := by
  cases node with
  | null stop =>
    cases h
    simp
  | object start fields =>
    obtain ⟨rules, hrules, rfl⟩ := map_eq_ok_iff.mp h
    obtain ⟨below, henter, hrules⟩ := bind_eq_ok_iff.mp hrules
    cases henter
    intro found hfound
    obtain rfl := Option.some.inj hfound
    exact isKept_of_mapRead fields hrules
  | _ => cases h

/-- Each field of a config file keeps what is kept. -/
theorem shape_preservesAt_keeps : shape.PreservesAt (some 127) Keeps := by
  intro field hfield node record result hrecord h
  have hordered := shape_preserves_ordered field hfield _ node record result hrecord.ordered h
  refine ⟨hordered, ?_⟩
  simp only [shape, List.mem_cons, List.not_mem_nil, or_false] at hfield
  rcases hfield with rfl | rfl | rfl | rfl
  · obtain ⟨markers, -, h⟩ := bind_eq_ok_iff.mp h
    cases h
    exact hrecord.settings
  · obtain ⟨useGitignore, -, h⟩ := bind_eq_ok_iff.mp h
    cases h
    exact hrecord.settings
  · obtain ⟨names, -, h⟩ := bind_eq_ok_iff.mp h
    cases h
    exact hrecord.settings
  · obtain ⟨rules?, hrules, h⟩ := bind_eq_ok_iff.mp h
    cases h
    have hkept := isKept_of_asOptional hrules
    cases rules? with
    | none => exact List.forall_mem_nil _
    | some rules =>
      intro entry hentry
      have hmem := (Entries.mem_foldl_insertSorted hentry).resolve_right List.not_mem_nil
      exact hkept rules rfl entry hmem

/-- A config file that was read is kept. -/
theorem keeps_of_parse {text : String} {config : Config} (h : parse text = .ok config) :
    config.Keeps := by
  obtain ⟨value, hvalue, h⟩ := bind_eq_ok_iff.mp h
  have hkeeps : value.Keeps := by
    refine RecordShape.read_preservesAt (fun henter => ?_) keeps_empty hvalue
    cases henter
    exact shape_preservesAt_keeps
  split at h
  · cases h
    exact hkeeps
  · cases h

end Config

namespace Preset

/-- A preset that switches rules on is kept. -/
theorem keeps_of_switchedOn {preset : Config} {rules : List String}
    (h : preset.rules? = some (switchedOn rules)) : preset.Keeps := by
  have hrules : preset.rules = switchedOn rules := by
    rw [Config.rules, h, Option.getD_some]
  refine ⟨?_, ?_⟩
  · rw [Config.Ordered, hrules]
    exact Entries.ascending_sorted _
  · rw [hrules]
    intro entry hentry
    have hmem := (Entries.mem_foldl_insertSorted hentry).resolve_right List.not_mem_nil
    obtain ⟨rule, -, rfl⟩ := List.mem_map.mp hmem
    rfl

/-- A preset that is declared is kept. -/
theorem keeps_of_declared? {name : String} {preset : Config} (h : declared? name = some preset) :
    preset.Keeps := by
  unfold declared? at h
  split_ifs at h <;> cases h
  case pos | pos | pos => exact keeps_of_switchedOn rfl
  all_goals exact ⟨List.Pairwise.nil, List.forall_mem_nil _⟩

end Preset

namespace Config

/-- A configuration that comes from texts and presets. -/
inductive Arises : Config → Prop where
  /-- From a text. -/
  | parsed {text : String} {config : Config} (h : parse text = .ok config) : Arises config
  /-- From a declared preset. -/
  | declared {name : String} {config : Config} (h : Preset.declared? name = some config) :
    Arises config
  /-- From two of them that are laid over each other. -/
  | merged {parent child : Config} (h : Arises parent) (hchild : Arises child) :
    Arises (parent.merge child)

/-- Wherever a configuration comes from, it is kept. -/
theorem Arises.keeps {config : Config} (h : config.Arises) : config.Keeps := by
  induction h with
  | parsed h => exact keeps_of_parse h
  | declared h => exact Preset.keeps_of_declared? h
  | merged h hchild ih ihchild => exact ih.merge ihchild

/-! ### Reading a configuration back -/

/-- The reader of configurations does not look at places. -/
theorem ignoresMarks_read (depth : Depth) : IgnoresMarks (shape.read {} depth) := by
  refine RecordShape.ignoresMarks_read (fun field hfield inside record node result h => ?_) _ depth
  simp only [shape, List.mem_cons, List.not_mem_nil, or_false] at hfield
  rcases hfield with rfl | rfl | rfl | rfl
  · obtain ⟨markers?, hmarkers, h⟩ := bind_eq_ok_iff.mp h
    have hread := (ignoresMarks_asTexts inside).asOptional node markers? hmarkers
    exact bind_eq_ok_iff.mpr ⟨markers?, hread, h⟩
  · obtain ⟨useGitignore?, hswitch, h⟩ := bind_eq_ok_iff.mp h
    have hread := ignoresMarks_asSwitch.asOptional node useGitignore? hswitch
    exact bind_eq_ok_iff.mpr ⟨useGitignore?, hread, h⟩
  · obtain ⟨names?, hnames, h⟩ := bind_eq_ok_iff.mp h
    have hread := (ignoresMarks_asTexts inside).asOptional node names? hnames
    exact bind_eq_ok_iff.mpr ⟨names?, hread, h⟩
  · obtain ⟨rules?, hrules, h⟩ := bind_eq_ok_iff.mp h
    have htable : IgnoresMarks (Node.asTable inside RuleSetting.read) :=
      IgnoresPlaces.asTable RuleSetting.ignoresPlaces_read inside
    have hread := htable.asOptional node rules? hrules
    exact bind_eq_ok_iff.mpr ⟨rules?, hread, h⟩

/-- The fields of a configuration one after the other, each of which may be left out. -/
theorem toJson_eq (config : Config) : config.toJson = .object
    (RecordShape.optionalEntry "module-markers" (fun markers => .array (markers.map .string))
        config.markers? ++
      (RecordShape.optionalEntry "use-gitignore" .bool config.useGitignore? ++
        (RecordShape.optionalEntry "extends" (fun names => .array (names.map .string))
            config.extends? ++
          (RecordShape.optionalEntry "rules"
              (fun rules => .object (rules.map fun entry => (entry.1, entry.2.toJson)))
              config.rules? ++ [])))) := by
  simp [toJson, RecordShape.optionalEntry]

/-- Texts in a config are read one after the other. -/
theorem asTexts_ofJson (texts : List String) :
    Node.asTexts (some 127) (Node.ofJson (.array (texts.map .string))) = .ok texts := by
  refine bind_eq_ok_iff.mpr ⟨some 126, rfl, ?_⟩
  induction texts with
  | nil => rfl
  | cons text texts ih =>
    exact bind_eq_ok_iff.mpr ⟨text, rfl, bind_eq_ok_iff.mpr ⟨texts, ih, rfl⟩⟩

/-- The rules of a config are read one after the other, if their settings are kept. -/
theorem asTable_ofJson {rules : Entries RuleSetting} (h : ∀ entry ∈ rules, entry.2.IsKept) :
    Node.asTable (some 127) RuleSetting.read
      (Node.ofJson (.object (rules.map fun entry => (entry.1, entry.2.toJson)))) = .ok rules := by
  refine bind_eq_ok_iff.mpr ⟨some 126, rfl, ?_⟩
  induction rules with
  | nil => rfl
  | cons entry rules ih =>
    obtain ⟨hfirst, hrest⟩ := List.forall_mem_cons.mp h
    exact bind_eq_ok_iff.mpr ⟨entry.1, rfl, bind_eq_ok_iff.mpr ⟨entry.2, hfirst,
      bind_eq_ok_iff.mpr ⟨rules, ih hrest, rfl⟩⟩⟩

/-- Rules that are in order stay as they are. -/
theorem sorted_of_ascending {rules : Entries RuleSetting} (h : rules.Ascending) :
    Entries.sorted rules = rules :=
  (Entries.ascending_sorted rules).ext h (Entries.find?_sorted h.nodup_keys)

/-- The value of a configuration is read as it. -/
theorem Keeps.read_toJson {config : Config} (h : config.Keeps) :
    shape.read {} .ofText (Node.ofJson config.toJson) = .ok config := by
  obtain ⟨markers?, useGitignore?, extends?, rules?⟩ := config
  rw [toJson_eq]
  refine bind_eq_ok_iff.mpr ⟨some 127, rfl, ?_⟩
  -- Field by field, each into what those in front of it have set.
  suffices hread : shape.ReadsInto (some 127) [] {} _
      ⟨markers?, useGitignore?, extends?, rules?⟩ from hread [] (List.Subset.refl [])
  refine RecordShape.readsInto_optionalEntry ⟨markers?, none, none, none⟩ rfl
    (by decide) (congrArg (Config.mk · none none none)) ?_ ?_
  · intro markers hmarkers
    obtain rfl : markers? = some markers := hmarkers
    have hread := congrArg (Except.map some) (asTexts_ofJson markers)
    exact bind_eq_ok_iff.mpr ⟨some markers, hread, rfl⟩
  refine RecordShape.readsInto_optionalEntry ⟨markers?, useGitignore?, none, none⟩ rfl
    (by decide) (congrArg (Config.mk markers? · none none)) ?_ ?_
  · intro useGitignore hswitch
    obtain rfl : useGitignore? = some useGitignore := hswitch
    rfl
  refine RecordShape.readsInto_optionalEntry ⟨markers?, useGitignore?, extends?, none⟩ rfl
    (by decide) (congrArg (Config.mk markers? useGitignore? · none)) ?_ ?_
  · intro names hnames
    obtain rfl : extends? = some names := hnames
    have hread := congrArg (Except.map some) (asTexts_ofJson names)
    exact bind_eq_ok_iff.mpr ⟨some names, hread, rfl⟩
  refine RecordShape.readsInto_optionalEntry ⟨markers?, useGitignore?, extends?, rules?⟩ rfl
    (by decide) (congrArg (Config.mk markers? useGitignore? extends?)) ?_ (fun _ _ => rfl)
  · intro rules hrules
    obtain rfl : rules? = some rules := hrules
    have hread := congrArg (Except.map some) (asTable_ofJson h.settings)
    have hsorted : Entries.sorted rules = rules := sorted_of_ascending h.ordered
    refine bind_eq_ok_iff.mpr ⟨some rules, hread, ?_⟩
    rw [Option.map_some, hsorted]
    rfl

section

variable {config : Config} (hnumbers : ∀ number ∈ config.toJson.numbers, ReadsBack number)
include hnumbers

/-- The compact text of a configuration is read as it. -/
theorem Keeps.parse_compact (h : config.Keeps) : parse config.toJson.compact = .ok config :=
  read_ofText_compact hnumbers (ignoresMarks_read .ofText) h.read_toJson

/-- The indented text of a configuration is read as it. -/
theorem Keeps.parse_indented (h : config.Keeps) : parse config.toJson.indented = .ok config :=
  read_ofText_indented hnumbers (ignoresMarks_read .ofText) h.read_toJson

/-- The text of a configuration that comes from texts and presets is read as this configuration, be
it compact or indented, and so its text is the same again. The texts of the numbers in its rules
have to be read as these numbers. -/
theorem parse_toJson (h : config.Arises) :
    parse config.toJson.compact = .ok config ∧ parse config.toJson.indented = .ok config ∧
      (parse config.toJson.compact).map (·.toJson.compact) = .ok config.toJson.compact ∧
      (parse config.toJson.indented).map (·.toJson.indented) = .ok config.toJson.indented := by
  have hcompact := h.keeps.parse_compact hnumbers
  have hindented := h.keeps.parse_indented hnumbers
  refine ⟨hcompact, hindented, ?_, ?_⟩
  · rw [hcompact]
    rfl
  · rw [hindented]
    rfl

end

/-- A config in which a field is null and a rule is, and another rule has a double. -/
def scoredText : String :=
  "\x7b\"moduleMarkers\": [\"p\"], \"extends\": null, \"rules\": \x7b" ++
    "\"module-same-contents\": \x7b\"files\": [\"a\"], \"score\": 92.5\x7d, " ++
    "\"module-unique-name\": null\x7d\x7d"

/-- What is left of a preset and the config that is laid over it. -/
def scoredResult : String :=
  "\x7b\"module-markers\":[\"p\"],\"use-gitignore\":true,\"rules\":\x7b" ++
    "\"module-name-regex\":true,\"module-same-contents\":" ++
    "\x7b\"files\":[\"a\"],\"score\":92.5\x7d,\"module-unique-name\":false\x7d\x7d"

/-- A config laid over a preset is read from its text. -/
theorem parse_toJson_scoredText : ∃ preset own, Preset.declared? Preset.basic = some preset ∧
    parse scoredText = .ok own ∧ (preset.merge own).toJson.compact = scoredResult ∧
      parse scoredResult = .ok (preset.merge own) := by
  have hrun : ((parse scoredText).toOption.any fun own =>
      (Preset.declared? Preset.basic).any fun preset =>
        (preset.merge own).toJson.compact == scoredResult &&
          (preset.merge own).toJson.numbers.all (decide <| ReadsBack ·)) = true := by
    decide +kernel
  obtain ⟨own, hown, hrun⟩ := exists_ok_of_any hrun
  obtain ⟨preset, hpreset, hrun⟩ := (Option.any_eq_true _ _).mp hrun
  obtain ⟨htext, hnumbers⟩ := Bool.and_eq_true_iff.mp hrun
  have hnumbers : ∀ number ∈ (preset.merge own).toJson.numbers, ReadsBack number :=
    fun number hnumber => of_decide_eq_true (List.all_eq_true.mp hnumbers number hnumber)
  have hboth : (preset.merge own).Arises := .merged (.declared hpreset) (.parsed hown)
  have hcompact := (parse_toJson hnumbers hboth).1
  rw [beq_iff_eq] at htext
  rw [htext] at hcompact
  exact ⟨preset, own, hpreset, hown, htext, hcompact⟩

/-! ### Resolved configurations -/

/-- A configuration in which there are no numbers comes from its own text. -/
theorem Keeps.arises {config : Config} (h : config.Keeps) (hnumbers : config.toJson.numbers = []) :
    config.Arises :=
  .parsed (h.parse_compact (by rw [hnumbers]; exact List.forall_mem_nil _))

/-- A config that is loaded comes from a text. -/
theorem arises_of_load {workspace : Workspace} {file : RepoPath} {config : Config}
    (h : load workspace file = .ok config) : config.Arises := by
  unfold load at h
  split at h
  · cases h
  split at h
  · cases h
  next hparse =>
  cases h
  exact .parsed hparse

/-- However many configurations are laid over one, what is left comes from texts and presets. -/
theorem Arises.foldl_merge {config : Config} (h : config.Arises) {children : List Config}
    (hchildren : ∀ child ∈ children, child.Arises) : (children.foldl merge config).Arises := by
  induction children generalizing config with
  | nil => exact h
  | cons child rest ih =>
    obtain ⟨hchild, hrest⟩ := List.forall_mem_cons.mp hchildren
    exact ih (h.merged hchild) hrest

end Config

/-- The settings of a preset come from those that are declared. -/
theorem Preset.arises_of_resolveFrom {fuel : Nat} {chain : List String}
    {name referencedFrom : String} {config : Config}
    (h : resolveFrom chain fuel name referencedFrom = .ok config) : config.Arises := by
  induction fuel generalizing chain name referencedFrom config with
  | zero => cases h
  | succ fuel ih =>
    unfold resolveFrom at h
    split at h
    · cases h
    split at h
    · cases h
    next preset hpreset =>
    obtain ⟨extended, hextended, hconfig⟩ := bind_eq_ok_iff.mp h
    cases hconfig
    have hall : ∀ config ∈ extended, config.Arises := by
      intro config hconfig
      obtain ⟨parent, -, hparent⟩ := exists_item_of_mapM hextended hconfig
      exact ih hparent
    exact ((Config.keeps_empty.arises rfl).foldl_merge hall).merged (.declared hpreset)

namespace Resolution

/-- What a level lays over a resolution comes from texts and presets. -/
theorem arises_of_addLevel {level : Level} {file : RepoPath} {own : Config}
    {before after : Resolution} (h : addLevel level file own before = .ok after)
    (hbefore : before.config.Arises) (hown : own.Arises) : after.config.Arises := by
  unfold addLevel at h
  split at h
  · cases h
  obtain ⟨extended, hextended, h⟩ := bind_eq_ok_iff.mp h
  obtain ⟨_, -, h⟩ := bind_eq_ok_iff.mp h
  cases h
  have hpresets : extended.config.Arises := by
    refine has_of_foldlM (fun resolution => resolution.config.Arises) ?_ hbefore hextended
    intro resolution name next hresolution hnext
    obtain ⟨preset, hpreset, hnext⟩ := bind_eq_ok_iff.mp hnext
    cases hnext
    exact hresolution.merged (Preset.arises_of_resolveFrom hpreset)
  exact hpresets.merged hown

/-- The configuration that applies to a target comes from texts and presets. -/
theorem arises_of_resolve {workspace : Workspace} {target root : RepoPath} {fileName : String}
    {result : Resolution} (h : resolve workspace target root fileName = .ok result) :
    result.config.Arises := by
  obtain ⟨visited, -, h⟩ := bind_eq_ok_iff.mp h
  have hstart : start.config.Keeps := ⟨List.Pairwise.nil, List.forall_mem_nil _⟩
  refine has_of_foldlM (fun resolution => resolution.config.Arises) ?_ (hstart.arises rfl) h
  intro before level after hbefore hstep
  unfold step at hstep
  dsimp only at hstep
  split at hstep
  · obtain ⟨own, hown, hstep⟩ := bind_eq_ok_iff.mp hstep
    exact arises_of_addLevel hstep hbefore (Config.arises_of_load hown)
  split at hstep
  · exact arises_of_addLevel hstep hbefore (Config.keeps_empty.arises rfl)
  · cases hstep
    exact hbefore

/-- What is shown of the configuration that applies to a target is read as this configuration. -/
theorem parse_indented_of_resolve {workspace : Workspace} {target root : RepoPath}
    {fileName : String} {result : Resolution}
    (h : resolve workspace target root fileName = .ok result)
    (hnumbers : ∀ number ∈ result.config.toJson.numbers, ReadsBack number) :
    Config.parse result.config.toJson.indented = .ok result.config :=
  (arises_of_resolve h).keeps.parse_indented hnumbers

end Resolution

end Conventions
