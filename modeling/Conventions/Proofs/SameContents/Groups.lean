import Conventions.Proofs.Modules.Bindings
import Conventions.Proofs.SameContents.Footprint
import Mathlib.Data.List.Induction

/-!
# Groups of modules

The modules that ask for the same form a group, and a group is compared on its own. One more
module joins the group that asks for what it asks for, or begins a new one behind the others; this
is the step that keeps the groups a partition. What is found in a group depends on the files that
are compared in it, so that other files of the repository may change.
-/

namespace Conventions.SameContents

/-! ### What options ask for -/

/-- What an entry asks for. The least score counts as a number, so the two zeros are the same. -/
def FileEntry.asked (entry : FileEntry) : String × Bool × Rat × List Selector :=
  (entry.name, entry.enabled, entry.minimum, entry.selectors)

/-- What options ask for: a reference, and the files one by one. -/
def Options.asked (options : Options) :
    Option String × List (String × Bool × Rat × List Selector) :=
  (options.reference?, options.files.map FileEntry.asked)

/-- Two entries are the same if they ask for the same. -/
theorem FileEntry.same_iff {a b : FileEntry} : a.same b = true ↔ a.asked = b.asked := by
  simp [same, asked, and_assoc]

/-- Two lists of entries are the same if their entries are, one by one. -/
theorem sameEntries_iff {as bs : List FileEntry} :
    sameEntries as bs = true ↔ as.map FileEntry.asked = bs.map FileEntry.asked := by
  induction as generalizing bs with
  | nil => cases bs <;> simp [sameEntries]
  | cons a as ih => cases bs <;> simp [sameEntries, FileEntry.same_iff, ih]

/-- Two options are the same if they ask for the same. -/
theorem Options.same_iff {a b : Options} : a.same b = true ↔ a.asked = b.asked := by
  simp [same, asked, sameEntries_iff]

/-- Whether a module has options that ask for the same as the given ones. -/
def asksFor (options : Options) (module : RepoModule) : Bool :=
  (optionsOf? module).any options.same

/-- The options of a module that asks for the same as given ones do so. -/
theorem asksFor_iff {module : RepoModule} {own : Options} (hown : optionsOf? module = some own)
    (options : Options) : asksFor options module = true ↔ options.asked = own.asked := by
  simp [asksFor, hown, Options.same_iff]

/-- A module in which the rule is on has options that the rule accepts. -/
theorem exists_optionsOf? {module : RepoModule} (hbound : module.Bound)
    (hon : module.ruleEnabled .sameContents = true) :
    ∃ options, optionsOf? module = some options := by
  have hsome : (module.options? .sameContents).isSome = true := by
    rw [RepoModule.options?, Option.isSome_map, List.find?_isSome]
    exact List.any_eq_true.mp hon
  obtain ⟨options, hoptions⟩ := Option.isSome_iff_exists.mp hsome
  obtain ⟨setting, hsetting⟩ := hbound.exists_setting hoptions
  unfold Rule.options RuleOptions.ofSetting at hsetting
  cases hown : Options.ofSetting setting with
  | error reason => simp [hown, bind, Except.bind] at hsetting
  | ok own =>
    rw [hown] at hsetting
    cases hsetting
    exact ⟨own, by simp [optionsOf?, hoptions]⟩

/-! ### Groups are a partition -/

/-- What is known of the groups once some modules were gone through. -/
structure IsGrouping (seen : List RepoModule) (groups : List Group) : Prop where
  /-- A group has all modules that ask for the same, in their order. -/
  members_eq : ∀ group ∈ groups, group.members = seen.filter (asksFor group.options)
  /-- The options of a group are those of its first module. -/
  first : ∀ group ∈ groups, ∃ module rest,
    group.members = module :: rest ∧ optionsOf? module = some group.options
  /-- Every module finds a group. -/
  covers : ∀ module ∈ seen, ∀ options, optionsOf? module = some options →
    ∃ group ∈ groups, group.options.asked = options.asked
  /-- No two groups ask for the same. -/
  apart : groups.Pairwise fun a b => a.options.asked ≠ b.options.asked
  /-- The groups are in the order of their first modules. -/
  inOrder : (groups.filterMap (·.members.head?)).Sublist seen

/-- Before any module there are no groups. -/
theorem isGrouping_nil : IsGrouping [] [] where
  members_eq := by simp
  first := by simp
  covers := by simp
  apart := List.Pairwise.nil
  inOrder := List.Sublist.slnil

/-- A group once a module was shown to it: the module joins it if it asks for the same. -/
def Group.receive (options : Options) (module : RepoModule) (group : Group) : Group :=
  if group.options.same options then { group with members := group.members ++ [module] } else group

/-- A group keeps its options. -/
@[simp] theorem Group.options_receive (options : Options) (module : RepoModule) (group : Group) :
    (group.receive options module).options = group.options := by
  unfold receive
  split <;> rfl

/-- A module comes last in the group that it joins. -/
theorem Group.members_receive {options : Options} {module : RepoModule}
    (hoptions : optionsOf? module = some options) (group : Group) :
    (group.receive options module).members =
      group.members ++ [module].filter (asksFor group.options) := by
  by_cases hsame : group.options.same options = true
  · simp [receive, asksFor, hoptions, hsame]
  · simp [receive, asksFor, hoptions, hsame]

/-- The first module of a group stays the first. -/
theorem Group.head?_members_receive (options : Options) {module : RepoModule} {group : Group}
    (h : group.members ≠ []) :
    (group.receive options module).members.head? = group.members.head? := by
  unfold receive
  split
  · exact List.head?_append_of_ne_nil _ h
  · rfl

/-- Where a group asks for the same, the module joins this one, and the others stay. -/
theorem addTo_of_exists {options : Options} {module : RepoModule} {groups : List Group}
    (hapart : groups.Pairwise fun a b => a.options.asked ≠ b.options.asked)
    (h : ∃ group ∈ groups, group.options.asked = options.asked) :
    addTo options module groups = groups.map (Group.receive options module) := by
  induction groups with
  | nil => simp at h
  | cons first rest ih =>
    obtain ⟨hfirst, hrest⟩ := List.pairwise_cons.mp hapart
    by_cases hsame : first.options.same options = true
    · have hothers : ∀ group ∈ rest, group.receive options module = group := by
        refine fun group hgroup => if_neg fun hagain => hfirst group hgroup ?_
        rw [Options.same_iff.mp hsame, Options.same_iff.mp hagain]
      rw [List.map_cons, List.map_congr_left hothers, List.map_id']
      simp [addTo, Group.receive, hsame]
    · have hlater : ∃ group ∈ rest, group.options.asked = options.asked := by
        obtain ⟨group, hgroup, hasked⟩ := h
        rcases List.mem_cons.mp hgroup with rfl | hgroup
        · exact absurd (Options.same_iff.mpr hasked) hsame
        · exact ⟨group, hgroup, hasked⟩
      simp [addTo, Group.receive, hsame, ih hrest hlater]

/-- Where no group asks for the same, a new one begins with the module. -/
theorem addTo_of_forall_ne {options : Options} {module : RepoModule} {groups : List Group}
    (h : ∀ group ∈ groups, group.options.asked ≠ options.asked) :
    addTo options module groups = groups ++ [⟨options, [module]⟩] := by
  induction groups with
  | nil => rfl
  | cons first rest ih =>
    obtain ⟨hfirst, hrest⟩ := List.forall_mem_cons.mp h
    simp [addTo, mt Options.same_iff.mp hfirst, ih hrest]

/-- A module without options is in no group. -/
theorem IsGrouping.skip {seen : List RepoModule} {groups : List Group}
    (h : IsGrouping seen groups) {module : RepoModule} (hnone : optionsOf? module = none) :
    IsGrouping (seen ++ [module]) groups where
  members_eq group hgroup := by
    rw [h.members_eq group hgroup, List.filter_append]
    simp [asksFor, hnone]
  first := h.first
  covers other hother options hoptions := by
    rcases List.mem_append.mp hother with hother | hother
    · exact h.covers other hother options hoptions
    · cases List.mem_singleton.mp hother
      cases hnone.symm.trans hoptions
  apart := h.apart
  inOrder := h.inOrder.trans (List.sublist_append_left _ _)

/-- A module joins the group that asks for the same. -/
theorem IsGrouping.join {seen : List RepoModule} {groups : List Group}
    (h : IsGrouping seen groups) {module : RepoModule} {options : Options}
    (hoptions : optionsOf? module = some options)
    (hknown : ∃ group ∈ groups, group.options.asked = options.asked) :
    IsGrouping (seen ++ [module]) (groups.map (Group.receive options module)) where
  members_eq := by
    rw [List.forall_mem_map]
    intro group hgroup
    rw [Group.members_receive hoptions, Group.options_receive, h.members_eq group hgroup,
      List.filter_append]
  first := by
    rw [List.forall_mem_map]
    intro group hgroup
    obtain ⟨first, rest, hmembers, hfirst⟩ := h.first group hgroup
    rw [Group.members_receive hoptions, Group.options_receive, hmembers]
    exact ⟨first, _, rfl, hfirst⟩
  covers other hother own hown := by
    have hfound : ∃ group ∈ groups, group.options.asked = own.asked := by
      rcases List.mem_append.mp hother with hother | hother
      · exact h.covers other hother own hown
      · cases List.mem_singleton.mp hother
        cases hoptions.symm.trans hown
        exact hknown
    obtain ⟨group, hgroup, hasked⟩ := hfound
    exact ⟨_, List.mem_map_of_mem hgroup, by rwa [Group.options_receive]⟩
  apart := by
    rw [List.pairwise_map]
    simpa using h.apart
  inOrder := by
    have hheads : (groups.map (Group.receive options module)).filterMap (·.members.head?) =
        groups.filterMap (·.members.head?) := by
      rw [List.filterMap_map]
      refine List.filterMap_congr fun group hgroup => ?_
      obtain ⟨first, rest, hmembers, -⟩ := h.first group hgroup
      exact Group.head?_members_receive options (by simp [hmembers])
    rw [hheads]
    exact h.inOrder.trans (List.sublist_append_left _ _)

/-- Where no group asks for the same, a module begins a new one. -/
theorem IsGrouping.begin {seen : List RepoModule} {groups : List Group}
    (h : IsGrouping seen groups) {module : RepoModule} {options : Options}
    (hoptions : optionsOf? module = some options)
    (hnew : ∀ group ∈ groups, group.options.asked ≠ options.asked) :
    IsGrouping (seen ++ [module]) (groups ++ [⟨options, [module]⟩]) where
  members_eq := by
    rw [List.forall_mem_append, List.forall_mem_singleton]
    refine ⟨fun group hgroup => ?_, ?_⟩
    · have hother : ¬ asksFor group.options module = true := by
        rw [asksFor_iff hoptions]
        exact hnew group hgroup
      rw [h.members_eq group hgroup, List.filter_append]
      simp [hother]
    · -- A module that was seen and asks for the same would have a group.
      have hnone : seen.filter (asksFor options) = [] := by
        refine List.filter_eq_nil_iff.mpr fun other hother hasks => ?_
        obtain ⟨own, hown, hsame⟩ := (Option.any_eq_true _ _).mp hasks
        obtain ⟨group, hgroup, hasked⟩ := h.covers other hother own hown
        exact hnew group hgroup (hasked.trans (Options.same_iff.mp hsame).symm)
      have hself : asksFor options module = true := (asksFor_iff hoptions _).mpr rfl
      simp [hnone, hself]
  first := by
    rw [List.forall_mem_append, List.forall_mem_singleton]
    exact ⟨h.first, module, [], rfl, hoptions⟩
  covers other hother own hown := by
    rcases List.mem_append.mp hother with hother | hother
    · obtain ⟨group, hgroup, hasked⟩ := h.covers other hother own hown
      exact ⟨group, List.mem_append_left _ hgroup, hasked⟩
    · cases List.mem_singleton.mp hother
      cases hoptions.symm.trans hown
      exact ⟨_, List.mem_append_right _ (List.mem_singleton_self _), rfl⟩
  apart := by
    rw [List.pairwise_append]
    refine ⟨h.apart, List.pairwise_singleton _ _, fun group hgroup => ?_⟩
    rw [List.forall_mem_singleton]
    exact hnew group hgroup
  inOrder := by
    rw [List.filterMap_append]
    exact h.inOrder.append (List.Sublist.refl _)

/-- One more module keeps the groups a partition. -/
theorem IsGrouping.addTo {seen : List RepoModule} {groups : List Group}
    (h : IsGrouping seen groups) {module : RepoModule} {options : Options}
    (hoptions : optionsOf? module = some options) :
    IsGrouping (seen ++ [module]) (addTo options module groups) := by
  by_cases hknown : ∃ group ∈ groups, group.options.asked = options.asked
  · rw [addTo_of_exists h.apart hknown]
    exact h.join hoptions hknown
  · have hnew : ∀ group ∈ groups, group.options.asked ≠ options.asked :=
      fun group hgroup hasked => hknown ⟨group, hgroup, hasked⟩
    rw [addTo_of_forall_ne hnew]
    exact h.begin hoptions hnew

/-- The groups of modules are a partition of them. -/
theorem isGrouping_groupsOf (modules : List RepoModule) :
    IsGrouping modules (groupsOf modules) := by
  induction modules using List.reverseRecOn with
  | nil => exact isGrouping_nil
  | append_singleton seen module ih =>
    rw [groupsOf, List.foldl_append, List.foldl_cons, List.foldl_nil, ← groupsOf]
    cases hoptions : optionsOf? module with
    | none => exact ih.skip hoptions
    | some options => exact ih.addTo hoptions

/-- Where a group stands among the groups, no other one has its modules. -/
theorem IsGrouping.not_mem_others {seen : List RepoModule} {before after : List Group}
    {group : Group} (h : IsGrouping seen (before ++ group :: after)) {module : RepoModule}
    (hmodule : module ∈ group.members) : ∀ other ∈ before ++ after, module ∉ other.members := by
  intro other hother hagain
  obtain ⟨-, hrest, hbefore⟩ := List.pairwise_append.mp h.apart
  obtain ⟨hafter, -⟩ := List.pairwise_cons.mp hrest
  have hmem : other ∈ before ++ group :: after := by
    simp only [List.mem_append, List.mem_cons] at hother ⊢
    exact hother.imp_right Or.inr
  have hne : group.options.asked ≠ other.options.asked := by
    rcases List.mem_append.mp hother with hother | hother
    · exact (hbefore other hother group List.mem_cons_self).symm
    · exact hafter other hother
  rw [h.members_eq group (by simp), List.mem_filter] at hmodule
  rw [h.members_eq other hmem, List.mem_filter] at hagain
  obtain ⟨own, hown, hsame⟩ := (Option.any_eq_true _ _).mp hmodule.2
  have hasked := (asksFor_iff hown _).mp hagain.2
  exact hne ((Options.same_iff.mp hsame).trans hasked.symm)

/-- Two modules are in one group exactly if their options ask for the same. -/
theorem IsGrouping.exists_both_iff {seen : List RepoModule} {groups : List Group}
    (h : IsGrouping seen groups) {a b : RepoModule} (ha : a ∈ seen) (hb : b ∈ seen)
    {own other : Options} (hown : optionsOf? a = some own) (hother : optionsOf? b = some other) :
    (∃ group ∈ groups, a ∈ group.members ∧ b ∈ group.members) ↔ own.asked = other.asked := by
  constructor
  · rintro ⟨group, hgroup, hina, hinb⟩
    rw [h.members_eq group hgroup, List.mem_filter, asksFor_iff hown] at hina
    rw [h.members_eq group hgroup, List.mem_filter, asksFor_iff hother] at hinb
    exact hina.2.symm.trans hinb.2
  · intro hasked
    obtain ⟨group, hgroup, hsame⟩ := h.covers a ha own hown
    refine ⟨group, hgroup, ?_, ?_⟩
    · rw [h.members_eq group hgroup, List.mem_filter, asksFor_iff hown]
      exact ⟨ha, hsame⟩
    · rw [h.members_eq group hgroup, List.mem_filter, asksFor_iff hother]
      exact ⟨hb, hsame.trans hasked⟩

/-! ### Groups are compared on their own -/

/-- A module in which the rule is on is compared in exactly one group, along with all modules that
ask for the same and no others, in their order; the groups are in the order of their first modules.
What is found is what is found in the groups, one after the other, and in a group the same is found
in any two workspaces that have the same in the compared files of its members, and of its reference
if it is named. -/
theorem check_groups_apart (round : Similarity.Rounding) (modules checked : List RepoModule) :
    (∀ module ∈ checked, module.Bound → module.ruleEnabled .sameContents = true →
      ∃ options before group after, optionsOf? module = some options ∧
        groupsOf checked = before ++ group :: after ∧ module ∈ group.members ∧
        ∀ other ∈ before ++ after, module ∉ other.members) ∧
    (∀ a ∈ checked, ∀ b ∈ checked, ∀ own other,
      optionsOf? a = some own → optionsOf? b = some other →
        ((∃ group ∈ groupsOf checked, a ∈ group.members ∧ b ∈ group.members) ↔
          own.asked = other.asked)) ∧
    (∀ group ∈ groupsOf checked, group.members = checked.filter (asksFor group.options) ∧
      ∃ first rest, group.members = first :: rest ∧ optionsOf? first = some group.options) ∧
    ((groupsOf checked).filterMap (·.members.head?)).Sublist checked ∧
    (∀ workspace, check round workspace modules checked =
      (groupsOf checked).flatMap (compareGroup round workspace modules)) ∧
    ∀ group ∈ groupsOf checked, ∀ workspace other : Workspace,
      (∀ member ∈ group.members, SameFiles workspace other group.options member) →
      (∀ reference, IsNamedReference modules group reference →
        SameFiles workspace other group.options reference) →
      compareGroup round workspace modules group = compareGroup round other modules group := by
  have hgroups := isGrouping_groupsOf checked
  refine ⟨?_, ?_, ?_, hgroups.inOrder, fun workspace => rfl, ?_⟩
  · intro module hmodule hbound hon
    obtain ⟨options, hoptions⟩ := exists_optionsOf? hbound hon
    obtain ⟨group, hgroup, hasked⟩ := hgroups.covers module hmodule options hoptions
    have hmember : module ∈ group.members := by
      rw [hgroups.members_eq group hgroup, List.mem_filter, asksFor_iff hoptions]
      exact ⟨hmodule, hasked⟩
    obtain ⟨before, after, hsplit⟩ := List.append_of_mem hgroup
    exact ⟨options, before, group, after, hoptions, hsplit, hmember,
      (hsplit ▸ hgroups).not_mem_others hmember⟩
  · intro a ha b hb own other hown hother
    exact hgroups.exists_both_iff ha hb hown hother
  · exact fun group hgroup => ⟨hgroups.members_eq group hgroup, hgroups.first group hgroup⟩
  · exact fun group _ workspace other hmembers hreference =>
      compareGroup_congr round hmembers hreference

/-! ### Two modules and their reference -/

/-- A module with a setting of the rule. -/
def settled (name : String) (setting : RuleSetting) : RepoModule :=
  ⟨⟨name⟩, name, {}, (bindRules ⟨name⟩ [("module-same-contents", setting)]).toOption.getD []⟩

/-- The setting is bound to the options that it stands for. -/
theorem bound_settled (name : String) (setting : RuleSetting) : (settled name setting).Bound := by
  intro binding hbinding
  cases hbindings : bindRules ⟨name⟩ [("module-same-contents", setting)] with
  | error failure => simp [settled, hbindings, Except.toOption] at hbinding
  | ok bindings =>
    simp only [settled, hbindings, Except.toOption, Option.getD_some] at hbinding
    exact options_of_mem_bindRules hbindings binding hbinding

/-- A setting with a named reference, in which licenses need not be similar. -/
def lenient (minimum : JsonNumber) : RuleSetting :=
  .structured (.object [("reference-module", .string "b"),
    ("files", .object [("LICENSE", .object [("min-similarity", .number minimum)])])])

/-- The setting of the reference, which has notes compared. -/
def noted : RuleSetting := .structured (.object [("files", .object [("NOTES", .bool true)])])

/-- A module with the least score zero. -/
def plainZero : RepoModule := settled "a" (lenient (.whole 0))

/-- A module with the least score zero, written with a sign. -/
def signedZero : RepoModule := settled "c" (lenient (.double (.finite true 0 (-1074))))

/-- The two modules, and their reference between them. -/
def crew : List RepoModule := [plainZero, settled "b" noted, signedZero]

/-- The reference has notes. -/
def notes (text : String) : Workspace where
  root := .folder [
    ("a", .folder [("LICENSE", .file (.text "MIT"))]),
    ("b", .folder [("LICENSE", .file (.text "MIT")), ("NOTES", .file (.text text))]),
    ("c", .folder [("LICENSE", .file (.text "BSD"))])]
  current := []

/-- The files that are compared by default are not changed along with the notes. -/
theorem fileAt?_notes (old new : String) : ∀ module ∈ crew, ∀ name ∈ Entries.keys defaultFiles,
    (notes old).fileAt? (module.file name) = (notes new).fileAt? (module.file name) := by
  simp only [crew, plainZero, signedZero, Entries.keys, defaultFiles, wholeFile, partsOf,
    List.map_cons, List.map_nil, List.forall_mem_cons]
  refine ⟨?_, ?_, ?_, by simp⟩
  all_goals exact ⟨rfl, rfl, rfl, rfl, rfl, rfl, rfl, rfl, rfl, rfl, rfl, by simp⟩

/-- The two modules ask for the same, and for the usual files. -/
theorem exists_asked_crew : ∃ own other, optionsOf? plainZero = some own ∧
    optionsOf? signedZero = some other ∧ own.asked = other.asked ∧
    own.files.map (·.name) = Entries.keys defaultFiles := by
  have hsame : (optionsOf? plainZero).any (fun own => (optionsOf? signedZero).any fun other =>
      own.same other && own.files.map (·.name) == Entries.keys defaultFiles) = true := by
    decide +kernel
  obtain ⟨own, hown, hsame⟩ := (Option.any_eq_true _ _).mp hsame
  obtain ⟨other, hother, hsame⟩ := (Option.any_eq_true _ _).mp hsame
  obtain ⟨hsame, hnames⟩ := Bool.and_eq_true_iff.mp hsame
  exact ⟨own, other, hown, hother, Options.same_iff.mp hsame, eq_of_beq hnames⟩

/-- The two modules are compared in one group and in no other, and the notes of their reference do
not count there. -/
theorem check_groups_apart_notes : ∃ before group after,
    groupsOf crew = before ++ group :: after ∧
    plainZero ∈ group.members ∧ signedZero ∈ group.members ∧
    (∀ other ∈ before ++ after, plainZero ∉ other.members) ∧
    compareGroup Similarity.doubles (notes "old") crew group =
      compareGroup Similarity.doubles (notes "new") crew group := by
  obtain ⟨honce, -, hmembers, -, -, hframe⟩ := check_groups_apart Similarity.doubles crew crew
  obtain ⟨options, before, group, after, hoptions, hsplit, hfirst, hothers⟩ :=
    honce plainZero (by simp [crew]) (bound_settled _ _) (by decide +kernel)
  obtain ⟨own, other, hown, hother, hasked, hnames⟩ := exists_asked_crew
  have hgroup : group ∈ groupsOf crew := by simp [hsplit]
  obtain ⟨hfilter, -⟩ := hmembers group hgroup
  -- The group asks for what its modules ask for, so the usual files are compared in it.
  have hgroupAsked : group.options.asked = own.asked := by
    rw [hfilter, List.mem_filter, asksFor_iff hown] at hfirst
    exact hfirst.2
  have hlast : signedZero ∈ group.members := by
    rw [hfilter, List.mem_filter, asksFor_iff hother]
    exact ⟨by simp [crew], hgroupAsked.trans hasked⟩
  have hfiles : group.options.files.map (·.name) = Entries.keys defaultFiles := by
    have hsame := congrArg (fun asked => asked.2.map (·.1)) hgroupAsked
    simp only [Options.asked, List.map_map] at hsame
    exact hsame.trans hnames
  have hsame : ∀ module ∈ crew, SameFiles (notes "old") (notes "new") group.options module :=
    fun module hmodule entry hentry _ => fileAt?_notes "old" "new" module hmodule entry.name
      (hfiles ▸ List.mem_map_of_mem hentry)
  refine ⟨before, group, after, hsplit, hfirst, hlast, hothers,
    hframe group hgroup _ _ (fun member hmember => ?_) ?_⟩
  · rw [hfilter] at hmember
    exact hsame member (List.mem_of_mem_filter hmember)
  · rintro reference ⟨name, -, honly⟩
    have hreference : reference ∈ crew.filter (·.name == name) := by simp [honly]
    exact hsame reference (List.mem_of_mem_filter hreference)

end Conventions.SameContents
