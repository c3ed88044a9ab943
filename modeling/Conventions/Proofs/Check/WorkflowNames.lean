import Conventions.Proofs.Check.Completion
import Conventions.Proofs.Regex.Language

/-!
# Two ways to recognise a workflow file

The files that are there are checked by how their names start and end. The files that a module
needs are searched with an expression, for which a name must have room for the module, the suffix
and the extension, one behind the other. What the expression matches is accepted. Besides, an empty
suffix allows any ending, and without an expression the start and the end of a name may overlap or
have a line end between them.
-/

namespace Conventions.Workflows

open Regex

/-- The extensions of workflow files. -/
def extensions : List String := [".yml", ".yaml"]

/-- A file is one that a module needs for a suffix: the expression for their names matches it. -/
def Recognised (module suffix file : String) : Prop :=
  ∃ pattern, Regex.read (filePattern module suffix) = .ok pattern ∧ pattern.isMatch file = true

/-- The name of a file is put together from the name of a module, a text without line ends, a
suffix and an extension. -/
def Composed (module suffix file : String) : Prop :=
  ∃ between, '\n' ∉ between.toList ∧
    ∃ extension ∈ extensions, file = module ++ between ++ suffix ++ extension

/-- The name of a file ends in a suffix and an extension, which overlap with the name of a module
or are separated from it by a line end. -/
def Entangled (module suffix file : String) : Prop :=
  ∃ extension ∈ extensions, Text.endsWith file (suffix ++ extension) = true ∧
    (file.length < module.length + (suffix ++ extension).length ∨
      ∃ between, '\n' ∈ between.toList ∧ file = module ++ between ++ suffix ++ extension)

/-! ### The expression -/

variable {p q : Position}

/-- The expressions for the characters of a text. -/
theorem map_regex_textItems (text : List Char) :
    (textItems text).map (·.regex) = text.map char := by
  simp [textItems, leaf]

/-- The extension passes over the rest of a text. -/
theorem spans_extensionItems : (sequence (extensionItems.map (·.regex))).Spans p q ↔
    ∃ extension ∈ extensions, p.Passes extension.toList q ∧ q.rest = [] := by
  have hitems : extensionItems.map (·.regex) = ['.', 'y'].map char ++
      (times (char 'a') 0 (some 1) :: (['m', 'l'].map char ++ [look .textEnd])) := rfl
  have hend : ∀ {p q : Position},
      (sequence [look .textEnd]).Spans p q ↔ p.rest = [] ∧ q = p := by
    intro p q
    simp [Regex.sequence, Spans, holds]
  simp only [hitems, spans_sequence_append, spans_sequence_cons, spans_characters, spans_optional,
    hend]
  constructor
  · rintro ⟨mid, hfirst, next, ⟨word, hword, hpass⟩, last, hlast, hrest, rfl⟩
    have hwhole := (hfirst.append hpass).append hlast
    rcases hword with rfl | rfl
    · exact ⟨".yml", by decide, hwhole, hrest⟩
    · exact ⟨".yaml", by decide, hwhole, hrest⟩
  · rintro ⟨extension, hextension, hpass, hrest⟩
    obtain ⟨word, hword, hsplit⟩ : ∃ word, (word = [] ∨ word = ['a']) ∧
        extension.toList = ['.', 'y'] ++ (word ++ ['m', 'l']) := by
      simp only [extensions, List.mem_cons, List.not_mem_nil, or_false] at hextension
      rcases hextension with rfl | rfl
      · exact ⟨[], Or.inl rfl, rfl⟩
      · exact ⟨['a'], Or.inr rfl, rfl⟩
    rw [hsplit] at hpass
    obtain ⟨mid, hfirst, hmore⟩ := hpass.exists_between
    obtain ⟨next, hnext, hlast⟩ := hmore.exists_between
    exact ⟨mid, hfirst, next, ⟨word, hword, hnext⟩, q, hlast, hrest, rfl⟩

/-- The expression for the names of workflow files passes over a whole text. -/
theorem spans_fileRegex {module suffix : String} : (fileRegex module suffix).Spans p q ↔
    p.before = none ∧ ∃ between, '\n' ∉ between ∧ ∃ extension ∈ extensions,
      p.Passes (module.toList ++ (between ++ (suffix.toList ++ extension.toList))) q ∧
      q.rest = [] := by
  have hitems : (fileItems module suffix).map (·.regex) = look .textStart ::
      (module.toList.map char ++ (anyRun :: (suffix.toList.map char ++
        extensionItems.map (·.regex)))) := by
    simp [fileItems, map_regex_textItems, leaf]
  have hstart : ∀ {p q : Position}, (look .textStart).Spans p q ↔ p.before = none ∧ q = p := by
    intro p q
    simp [Spans, holds]
  simp only [fileRegex, hitems, spans_sequence_append, spans_sequence_cons, spans_characters,
    spans_anyRun, spans_extensionItems, hstart]
  constructor
  · rintro ⟨_, ⟨hbefore, rfl⟩, a, hmodule, b, ⟨between, hline, hbetween⟩, c, hsuffix, extension,
      hextension, hlast, hrest⟩
    exact ⟨hbefore, between, hline, extension, hextension,
      hmodule.append (hbetween.append (hsuffix.append hlast)), hrest⟩
  · rintro ⟨hbefore, between, hline, extension, hextension, hpass, hrest⟩
    obtain ⟨a, hmodule, hpass⟩ := hpass.exists_between
    obtain ⟨b, hbetween, hpass⟩ := hpass.exists_between
    obtain ⟨c, hsuffix, hlast⟩ := hpass.exists_between
    exact ⟨p, ⟨hbefore, rfl⟩, a, hmodule, b, ⟨between, hline, hbetween⟩, c, hsuffix, extension,
      hextension, hlast, hrest⟩

/-- A needed file is recognised by the expression for its name. -/
theorem recognised_iff_isMatch {module suffix file : String} :
    Recognised module suffix file ↔ (fileRegex module suffix).isMatch file = true := by
  simp only [Recognised, read_filePattern, Except.ok.injEq, exists_eq_left']

/-- A file is recognised if its name is put together from the name of the module, a text without
line ends, the suffix and an extension. -/
theorem recognised_iff {module suffix file : String} :
    Recognised module suffix file ↔ Composed module suffix file := by
  rw [recognised_iff_isMatch, isMatch_iff]
  simp only [spans_fileRegex]
  constructor
  · rintro ⟨p, q, ⟨word, hreach⟩, hbefore, between, hline, extension, hextension, hpass, hrest⟩
    -- The start of the text is the only position without a character before it.
    have hword : word = [] := by
      by_contra hword
      have hsome := hreach.isSome_before hword
      rw [hbefore] at hsome
      cases hsome
    subst hword
    obtain rfl := Position.passes_nil.mp hreach
    have hfile := hpass.rest_eq
    rw [hrest, List.append_nil] at hfile
    refine ⟨String.ofList between, by simpa using hline, extension, hextension, ?_⟩
    apply String.toList_inj.mp
    simpa using hfile
  · rintro ⟨between, hline, extension, hextension, rfl⟩
    have hfile : (module ++ between ++ suffix ++ extension).toList =
        (module.toList ++ (between.toList ++ (suffix.toList ++ extension.toList))) ++ [] := by
      simp
    obtain ⟨q, hpass, hrest⟩ := Position.exists_passes_of_rest_eq
      (p := ⟨none, (module ++ between ++ suffix ++ extension).toList⟩) hfile
    exact ⟨_, q, .refl _, rfl, between.toList, hline, extension, hextension, hpass, hrest⟩

/-! ### The checks -/

variable {directory : RepoPath} {modules : List RepoModule} {suffixes files : List String}
  {file : String}

/-- A file has a suffix if the suffix is empty or comes right before an extension. -/
theorem hasSuffix_iff {suffix : String} : hasSuffix file suffix = true ↔
    suffix = "" ∨ ∃ extension ∈ extensions, Text.endsWith file (suffix ++ extension) = true := by
  simp [hasSuffix, extensions, or_assoc]

/-- A file is accepted if its name starts with the name of a module and has one of the suffixes. -/
theorem valid_checkFile_iff : (checkFile directory modules suffixes file).valid = true ↔
    (∃ module ∈ modules, Text.startsWith file module.name = true) ∧
      ∃ suffix ∈ suffixes, hasSuffix file suffix = true := by
  unfold checkFile
  cases howner : (owners modules file).getLast? with
  | none =>
    have hnone : ¬ ∃ module ∈ modules, Text.startsWith file module.name = true := by
      rintro ⟨module, hmodule, hstart⟩
      have howned : module ∈ owners modules file := List.mem_filter.mpr ⟨hmodule, hstart⟩
      rw [List.getLast?_eq_none_iff.mp howner] at howned
      cases howned
    simp only [Finding.of, Bool.false_eq_true, hnone, false_and]
  | some owner =>
    obtain ⟨howned, hstart⟩ := List.mem_filter.mp (List.mem_of_getLast? howner)
    have hsome : ∃ module ∈ modules, Text.startsWith file module.name = true :=
      ⟨owner, howned, hstart⟩
    have hany : suffixes.any (hasSuffix file) = true ↔
        ∃ suffix ∈ suffixes, hasSuffix file suffix = true := List.any_eq_true
    rw [and_iff_right hsome, ← hany]
    by_cases hsuffix : suffixes.any (hasSuffix file) = true
    · simp only [hsuffix, if_true, Finding.of, Finding.about]
    · simp only [hsuffix, Finding.of, Bool.false_eq_true, if_false]

/-- A name that is put together starts with the module and ends in the suffix and an extension. -/
theorem Composed.starts_and_ends {module suffix : String} (h : Composed module suffix file) :
    Text.startsWith file module = true ∧
      ∃ extension ∈ extensions, Text.endsWith file (suffix ++ extension) = true := by
  obtain ⟨between, -, extension, hextension, rfl⟩ := h
  refine ⟨?_, extension, hextension, ?_⟩
  · simp [Text.startsWith]
  · simp only [Text.endsWith, List.isSuffixOf_iff_suffix, String.toList_append, List.append_assoc]
    rw [← List.append_assoc module.toList]
    exact List.suffix_append _ _

/-- A name that starts with the module and ends in the suffix and an extension is put together of
them, unless these are entangled. -/
theorem composed_or_entangled {module suffix extension : String}
    (hextension : extension ∈ extensions) (hstart : Text.startsWith file module = true)
    (hend : Text.endsWith file (suffix ++ extension) = true) :
    Composed module suffix file ∨ Entangled module suffix file := by
  obtain ⟨after, hafter⟩ := List.isPrefixOf_iff_prefix.mp hstart
  by_cases hshort : file.length < module.length + (suffix ++ extension).length
  · exact Or.inr ⟨extension, hextension, hend, Or.inl hshort⟩
  · obtain ⟨between, rfl⟩ : (suffix ++ extension).toList <:+ after := by
      refine List.suffix_of_suffix_length_le (List.isSuffixOf_iff_suffix.mp hend)
        ⟨module.toList, hafter⟩ ?_
      have hlength := congrArg List.length hafter
      simp only [List.length_append, String.length_toList] at hlength ⊢
      omega
    have hfile : file = module ++ String.ofList between ++ suffix ++ extension := by
      apply String.toList_inj.mp
      simp [← hafter]
    by_cases hline : '\n' ∈ (String.ofList between).toList
    · exact Or.inr ⟨extension, hextension, hend, Or.inr ⟨String.ofList between, hline, hfile⟩⟩
    · exact Or.inl ⟨String.ofList between, hline, extension, hextension, hfile⟩

/-- A module has a file for a suffix if one of the files is recognised. -/
theorem exists_checkSuffix (module : RepoModule) (suffix : String) :
    ∃ finding, checkSuffix directory files module suffix = .ok [finding] ∧
      (finding.valid = true ↔ ∃ file ∈ files, Recognised module.name suffix file) := by
  refine ⟨_, bind_eq_ok_iff.mpr ⟨_, mapError_read_filePattern module.name suffix, rfl⟩, ?_⟩
  simp only [recognised_iff_isMatch]
  cases hfind : files.find? (fileRegex module.name suffix).isMatch with
  | none =>
    have hnone := List.find?_eq_none.mp hfind
    simp only [Finding.of, Finding.about, Bool.false_eq_true, false_iff]
    rintro ⟨file, hfile, hmatch⟩
    exact hnone file hfile hmatch
  | some file =>
    simp only [Finding.of, Finding.about, true_iff]
    exact ⟨file, List.mem_of_find?_eq_some hfind, List.find?_some hfind⟩

/-- A check that has one finding for each item has one for each in their order. -/
theorem exists_checkAll_singletons {α : Type} {check : α → Except Failure (List Finding)}
    {about : α → Finding → Prop}
    (h : ∀ item, ∃ finding, check item = .ok [finding] ∧ about item finding) (items : List α) :
    ∃ findings, checkAll check items = .ok findings ∧ List.Forall₂ about items findings := by
  induction items with
  | nil => exact ⟨[], rfl, .nil⟩
  | cons item rest ih =>
    obtain ⟨finding, hfinding, habout⟩ := h item
    obtain ⟨findings, hfindings, hrest⟩ := ih
    obtain ⟨found, hfound, hflat⟩ := bind_eq_ok_iff.mp hfindings
    cases hflat
    refine ⟨finding :: found.flatten, ?_, .cons habout hrest⟩
    refine bind_eq_ok_iff.mpr ⟨[finding] :: found, ?_, rfl⟩
    rw [List.mapM_cons]
    exact bind_eq_ok_iff.mpr ⟨_, hfinding, bind_eq_ok_iff.mpr ⟨_, hfound, rfl⟩⟩

/-- The rule is on with the same suffixes in the base directory and in every module, each of which
needs a file for each of the suffixes. -/
structure Required (scope : Scope) (suffixes : List String) : Prop where
  atBase : ∃ setting, scope.config.rule? Rule.workflowNames.name = some setting ∧
    Rule.workflowNames.options setting = .ok (.workflows true suffixes)
  inModules : ∀ module ∈ scope.modules,
    module.options? .workflowNames = some (.workflows true suffixes)

/-- Whether options ask for a workflow file with each of certain suffixes. -/
def asksFor (suffixes : List String) : RuleOptions → Bool
  | .workflows true own => decide (own = suffixes)
  | _ => false

/-- Only options of the rule ask for workflow files. -/
theorem asksFor_iff {options : RuleOptions} :
    asksFor suffixes options = true ↔ options = .workflows true suffixes := by
  unfold asksFor
  split
  · simp
  · next hother =>
    simp only [Bool.false_eq_true, false_iff]
    rintro rfl
    exact hother suffixes rfl

/-- It is found out from the settings and the options where the rule asks for files. -/
theorem required_iff {scope : Scope} {suffixes : List String} :
    ((scope.config.rule? Rule.workflowNames.name).any (fun setting =>
        (Rule.workflowNames.options setting).toOption.any (asksFor suffixes)) = true ∧
      ∀ module ∈ scope.modules, (module.options? .workflowNames).any (asksFor suffixes) = true) ↔
    Required scope suffixes := by
  rw [Option.any_eq_true]
  simp only [any_toOption_iff, asksFor_iff, exists_eq_right]
  simp only [Option.any_eq_true, asksFor_iff, exists_eq_right]
  exact ⟨fun ⟨hbase, hmodules⟩ => ⟨hbase, hmodules⟩, fun h => ⟨h.atBase, h.inModules⟩⟩

instance (scope : Scope) (suffixes : List String) : Decidable (Required scope suffixes) :=
  decidable_of_iff _ required_iff

instance (module suffix file : String) : Decidable (Recognised module suffix file) :=
  decidable_of_iff _ recognised_iff_isMatch.symm

/-- A workflow file is accepted where all of them are checked. -/
def Accepts (scope : Scope) (suffixes : List String) (file : String) : Prop :=
  (checkFile (folder scope.base) scope.modules suffixes file).valid = true

instance (scope : Scope) (suffixes : List String) (file : String) :
    Decidable (Accepts scope suffixes file) :=
  inferInstanceAs (Decidable (_ = true))

/-- All workflow files are checked by the suffixes of the base directory. -/
theorem check_eq {scope : Scope} {suffixes : List String} (h : Required scope suffixes)
    (workspace : Workspace) : check scope workspace =
      .ok ((filesIn workspace (folder scope.base)).map
        (checkFile (folder scope.base) scope.modules suffixes)) := by
  obtain ⟨setting, hsetting, hoptions⟩ := h.atBase
  unfold check
  rw [hsetting]
  exact bind_eq_ok_iff.mpr ⟨_, hoptions, rfl⟩

/-- Where a rule asks for workflow files everywhere, each module has a file for a suffix exactly if
one of the files is recognised by the expression. All files that are recognised are accepted, and
all that start with the name of a module if there is an empty suffix. No other files are accepted,
but those in which the name of a module and a suffix with its extension are entangled. -/
theorem check_accepts_recognised {scope : Scope} {suffixes : List String}
    (h : Required scope suffixes) (workspace : Workspace) :
    (∀ module ∈ scope.modules, ∃ findings,
      checkModule (folder scope.base) (filesIn workspace (folder scope.base)) module =
        .ok findings ∧
      List.Forall₂ (fun suffix finding => finding.valid = true ↔
        ∃ file ∈ filesIn workspace (folder scope.base), Recognised module.name suffix file)
        suffixes findings) ∧
    check scope workspace = .ok ((filesIn workspace (folder scope.base)).map
      (checkFile (folder scope.base) scope.modules suffixes)) ∧
    ∀ file,
      ((∃ module ∈ scope.modules, ∃ suffix ∈ suffixes, Recognised module.name suffix file ∨
        (suffix = "" ∧ Text.startsWith file module.name = true)) → Accepts scope suffixes file) ∧
      (Accepts scope suffixes file → ∃ module ∈ scope.modules, ∃ suffix ∈ suffixes,
        Text.startsWith file module.name = true ∧ (Recognised module.name suffix file ∨
          suffix = "" ∨ Entangled module.name suffix file)) := by
  refine ⟨fun module hmodule => ?_, check_eq h workspace, fun file => ⟨?_, ?_⟩⟩
  · unfold checkModule
    rw [h.inModules module hmodule]
    exact exists_checkAll_singletons (exists_checkSuffix module) suffixes
  · rintro ⟨module, hmodule, suffix, hsuffix, hrecognised | ⟨hempty, hstart⟩⟩
    · obtain ⟨hstart, hend⟩ := (recognised_iff.mp hrecognised).starts_and_ends
      exact valid_checkFile_iff.mpr ⟨⟨module, hmodule, hstart⟩, suffix, hsuffix,
        hasSuffix_iff.mpr (Or.inr hend)⟩
    · exact valid_checkFile_iff.mpr ⟨⟨module, hmodule, hstart⟩, suffix, hsuffix,
        hasSuffix_iff.mpr (Or.inl hempty)⟩
  · intro haccepted
    obtain ⟨⟨module, hmodule, hstart⟩, suffix, hsuffix, hfits⟩ := valid_checkFile_iff.mp haccepted
    refine ⟨module, hmodule, suffix, hsuffix, hstart, ?_⟩
    rcases hasSuffix_iff.mp hfits with hempty | ⟨extension, hextension, hend⟩
    · exact Or.inr (Or.inl hempty)
    · rcases composed_or_entangled hextension hstart hend with hcomposed | hentangled
      · exact Or.inl (recognised_iff.mpr hcomposed)
      · exact Or.inr (Or.inr hentangled)

/-- A repository with one module and one workflow file, where a file with a certain suffix is asked
for everywhere. -/
def withWorkflow (module suffix file : String) : Workspace where
  root := .folder [
    (".github", .folder [("workflows", .folder [(file, .file (.text "on: push"))])]),
    (module, .folder [("p", .file (.text ""))]),
    ("config", .file (.text ("\x7b\"extends\": [], \"module-markers\": [\"p\"], \"rules\": " ++
      "\x7b\"gh-workflow-module-prefix\": \x7b\"required\": true, \"suffixes\": [\"" ++ suffix ++
      "\"]\x7d\x7d\x7d")))]
  current := []

/-- A file that is recognised by the expression is accepted. -/
theorem accepts_recognised_withWorkflow : ∃ scope,
    Scope.load (withWorkflow "a-dev" "-dev" "a-dev-x-dev.yaml") ⟨"."⟩ "config" false = .ok scope ∧
      Required scope ["-dev"] ∧ Accepts scope ["-dev"] "a-dev-x-dev.yaml" := by
  have hrun : (Scope.load (withWorkflow "a-dev" "-dev" "a-dev-x-dev.yaml") ⟨"."⟩ "config"
      false).toOption.any (fun scope => decide (Required scope ["-dev"] ∧
        ∃ module ∈ scope.modules, Recognised module.name "-dev" "a-dev-x-dev.yaml")) = true := by
    decide +kernel
  obtain ⟨scope, hload, hscope⟩ := exists_ok_of_any hrun
  obtain ⟨hrequired, module, hmodule, hrecognised⟩ := of_decide_eq_true hscope
  have haccepts := ((check_accepts_recognised hrequired
    (withWorkflow "a-dev" "-dev" "a-dev-x-dev.yaml")).2.2 "a-dev-x-dev.yaml").1
  exact ⟨scope, hload, hrequired,
    haccepts ⟨module, hmodule, "-dev", List.mem_singleton_self _, Or.inl hrecognised⟩⟩

/-- A file is accepted exactly if it is recognised for one of the modules and suffixes. -/
def Agrees (scope : Scope) (suffixes : List String) (file : String) : Prop :=
  Accepts scope suffixes file ↔
    ∃ module ∈ scope.modules, ∃ suffix ∈ suffixes, Recognised module.name suffix file

instance (scope : Scope) (suffixes : List String) (file : String) :
    Decidable (Agrees scope suffixes file) :=
  inferInstanceAs (Decidable (_ ↔ _))

/-- The two checks say different things about the one workflow file of a repository. -/
def Disagreement (module suffix file : String) : Prop :=
  ∃ scope, Scope.load (withWorkflow module suffix file) ⟨"."⟩ "config" false = .ok scope ∧
    Required scope [suffix] ∧
    filesIn (withWorkflow module suffix file) (folder scope.base) = [file] ∧
    ¬ Agrees scope [suffix] file

instance (module suffix file : String) : Decidable (Disagreement module suffix file) :=
  decidable_of_iff
    ((Scope.load (withWorkflow module suffix file) ⟨"."⟩ "config" false).toOption.any (fun scope =>
      decide (Required scope [suffix] ∧
        filesIn (withWorkflow module suffix file) (folder scope.base) = [file] ∧
        ¬ Agrees scope [suffix] file)) = true)
    (by simp only [any_toOption_iff, decide_eq_true_iff, Disagreement])

/-- The two checks disagree on a file with any ending for an empty suffix, and on files in which
the name of the module overlaps with the suffix or is separated from it by a line end. -/
theorem disagreement_anyEnding : Disagreement "a" "" "a.txt" ∧
    Disagreement "a-dev" "-dev" "a-dev.yml" ∧ Disagreement "a-dev" "-dev" "a-dev\n-dev.yml" := by
  decide +kernel

end Conventions.Workflows
