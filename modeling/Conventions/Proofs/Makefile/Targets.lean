import Conventions.Proofs.FirstMentions
import Conventions.Proofs.Makefile.Lines
import Mathlib.Logic.Function.Iterate

/-!
# The targets of a Makefile

What the lines of a Makefile say about a target can be told line by line: a rule adds its
prerequisites to each target that it names, and a recipe line belongs to the targets that the last
rule before it names, unless something else than a rule stands between. The reader, which goes from
line to line with a table of targets, finds just that.
-/

namespace Conventions.Makefile

/-! ### What lines say -/

/-- The targets that a line names. -/
def Line.names : Line → List (List Char)
  | .rule names _ => names
  | _ => []

/-- Whether the recipe lines before a line and those behind it belong to different rules. -/
def Line.separates : Line → Bool
  | .recipe _ | .nothing => false
  | .rule _ _ | .other => true

/-- The names on all lines. -/
def mentioned (lines : List Line) : List (List Char) := lines.flatMap Line.names

/-- The targets to which a recipe line behind some lines belongs: those that are named on the last
of the lines that is neither part of a recipe nor says nothing. -/
def ownersBehind (lines : List Line) : List (List Char) :=
  ((lines.filter Line.separates).getLast?.map Line.names).getD []

/-- The prerequisites of a target: those of all rules, each as often as the rule names the
target. -/
def prerequisitesOf (name : List Char) (lines : List Line) : List (List Char) :=
  lines.flatMap fun
    | .rule names prerequisites => (List.replicate (names.count name) prerequisites).flatten
    | _ => []

/-- The recipe of a target: the recipe lines that belong to it, each as often as the target is
named where they belong. -/
def recipeOf (name : List Char) (lines : List Line) : List (List Char) :=
  lines.zipIdx.flatMap fun
    | (.recipe command, place) =>
      List.replicate ((ownersBehind (lines.take place)).count name) command
    | _ => []

/-- What lines say about a target. -/
def described (lines : List Line) (name : List Char) : Target :=
  ⟨prerequisitesOf name lines, recipeOf name lines⟩

/-! ### Line by line -/

variable {lines : List Line} {name : List Char}

/-- One more line names its own targets. -/
theorem mentioned_append (lines : List Line) (line : Line) :
    mentioned (lines ++ [line]) = mentioned lines ++ line.names := by
  simp [mentioned]

/-- Behind a line that separates, recipe lines belong to the targets that it names. -/
theorem ownersBehind_append (lines : List Line) (line : Line) : ownersBehind (lines ++ [line]) =
    if line.separates then line.names else ownersBehind lines := by
  by_cases hline : line.separates = true
  · simp [ownersBehind, hline]
  · simp [ownersBehind, hline]

/-- One more rule adds its prerequisites to each target that it names. -/
theorem prerequisitesOf_append (name : List Char) (lines : List Line) (line : Line) :
    prerequisitesOf name (lines ++ [line]) = prerequisitesOf name lines ++
      match line with
      | .rule names prerequisites => (List.replicate (names.count name) prerequisites).flatten
      | _ => [] := by
  simp only [prerequisitesOf, List.flatMap_append, List.flatMap_singleton]

/-- One more line of a recipe belongs to the targets of the lines before it. -/
theorem recipeOf_append (name : List Char) (lines : List Line) (line : Line) :
    recipeOf name (lines ++ [line]) = recipeOf name lines ++
      match line with
      | .recipe command => List.replicate ((ownersBehind lines).count name) command
      | _ => [] := by
  unfold recipeOf
  rw [List.zipIdx_append, List.flatMap_append]
  congr 1
  · refine List.flatMap_congr fun ⟨kind, place⟩ hentry => ?_
    -- The lines before one of the first lines are the same.
    have htake : (lines ++ [line]).take place = lines.take place := by
      have hplace := List.snd_lt_of_mem_zipIdx hentry
      exact List.take_append_of_le_length (by simpa using hplace.le)
    cases kind with
    | recipe command => simp only [htake]
    | _ => rfl
  · cases line <;> simp

/-- What one more line says about a target: a recipe line is added to the targets to which it
belongs, and prerequisites are added to those that are named with them. -/
theorem described_append (lines : List Line) (line : Line) (name : List Char) :
    described (lines ++ [line]) name =
      match line with
      | .recipe command =>
        { described lines name with
          recipe := recipeOf name lines ++
            List.replicate ((ownersBehind lines).count name) command }
      | .rule names prerequisites =>
        { described lines name with
          prerequisites := prerequisitesOf name lines ++
            (List.replicate (names.count name) prerequisites).flatten }
      | _ => described lines name := by
  cases line <;> simp [described, prerequisitesOf_append, recipeOf_append]

/-- Recipe lines belong to targets that are named. -/
theorem ownersBehind_subset (lines : List Line) : ownersBehind lines ⊆ mentioned lines := by
  induction lines using List.reverseRecOn with
  | nil => simp [ownersBehind]
  | append_singleton lines line ih =>
    rw [ownersBehind_append, mentioned_append]
    split
    · exact List.subset_append_right _ _
    · exact List.Subset.trans ih (List.subset_append_left _ _)

/-- Nothing is said about a target that is not named. -/
theorem described_of_notMem (h : name ∉ mentioned lines) : described lines name = ⟨[], []⟩ := by
  induction lines using List.reverseRecOn with
  | nil => rfl
  | append_singleton lines line ih =>
    rw [mentioned_append, List.mem_append, not_or] at h
    obtain ⟨hbefore, hline⟩ := h
    have hnothing := ih hbefore
    obtain ⟨hprerequisites, hrecipe⟩ := Target.mk.inj hnothing
    rw [described_append]
    cases line with
    | recipe command =>
      have howners : (ownersBehind lines).count name = 0 :=
        List.count_eq_zero.mpr fun hname => hbefore (ownersBehind_subset lines hname)
      simp [howners, hnothing, hrecipe]
    | rule names prerequisites =>
      have hnames : names.count name = 0 := List.count_eq_zero.mpr hline
      simp [hnames, hnothing, hprerequisites]
    | nothing => exact hnothing
    | other => exact hnothing

/-! ### The table of targets -/

/-- A table with certain names, each with its target. -/
def table (names : List (List Char)) (target : List Char → Target) : List (List Char × Target) :=
  names.map fun name => (name, target name)

section

variable {names : List (List Char)} {target : List Char → Target} {change : Target → Target}

/-- A change of a target that is in a table is made there. -/
theorem update_table_of_mem (hnodup : names.Nodup) (h : name ∈ names) :
    update change name (table names target) =
      table names (Function.update target name (change (target name))) := by
  induction names with
  | nil => cases h
  | cons first rest ih =>
    obtain ⟨hfirst, hrest⟩ := List.nodup_cons.mp hnodup
    unfold table at ih ⊢
    rw [List.map_cons, List.map_cons, update]
    by_cases heq : first = name
    · subst heq
      rw [if_pos rfl, Function.update_self]
      congr 1
      refine List.map_congr_left fun other hother => ?_
      have hne : other ≠ first := fun heq => hfirst (heq ▸ hother)
      rw [Function.update_of_ne hne]
    · have hname : name ∈ rest := (List.mem_cons.mp h).resolve_left (Ne.symm heq)
      rw [if_neg heq, Function.update_of_ne heq, ih hrest hname]

/-- A change of a target that is not in a table adds it. -/
theorem update_table_of_notMem (h : name ∉ names) :
    update change name (table names target) =
      table names target ++ [(name, change ⟨[], []⟩)] := by
  induction names with
  | nil => rfl
  | cons first rest ih =>
    rw [List.mem_cons, not_or] at h
    unfold table at ih ⊢
    rw [List.map_cons, update, if_neg (Ne.symm h.1), ih h.2, List.cons_append]

/-- A table in which the names stand in the order in which they were first mentioned, and in which
nothing is said about other names, stays such when a target is changed. -/
theorem update_table (h : name ∉ names → target name = ⟨[], []⟩) :
    update change name (table names.eraseDups target) =
      table (names ++ [name]).eraseDups (Function.update target name (change (target name))) := by
  rw [eraseDups_append_singleton]
  split
  · next hname =>
    exact update_table_of_mem (nodup_eraseDups names) (List.mem_eraseDups.mpr hname)
  · next hname =>
    have hnew : name ∉ names.eraseDups := fun hmem => hname (List.mem_eraseDups.mp hmem)
    rw [update_table_of_notMem hnew, ← h hname]
    unfold table
    rw [List.map_append, List.map_singleton, Function.update_self]
    congr 1
    refine List.map_congr_left fun other hother => ?_
    have hne : other ≠ name := fun heq => hnew (heq ▸ hother)
    rw [Function.update_of_ne hne]

/-- When several targets are changed one after the other, each is changed as often as it is
named. -/
theorem foldl_update_table (mentions : List (List Char))
    (h : ∀ name, name ∉ names → target name = ⟨[], []⟩) :
    mentions.foldl (fun targets name => update change name targets)
        (table names.eraseDups target) =
      table (names ++ mentions).eraseDups fun name =>
        change^[mentions.count name] (target name) := by
  induction mentions generalizing names target with
  | nil => simp
  | cons first rest ih =>
    have hnext : ∀ name, name ∉ names ++ [first] →
        Function.update target first (change (target first)) name = ⟨[], []⟩ := by
      intro name hname
      rw [List.mem_append, List.mem_singleton, not_or] at hname
      rw [Function.update_of_ne hname.2, h name hname.1]
    rw [List.foldl_cons, update_table (h first), ih hnext, List.append_assoc, List.singleton_append]
    congr 1
    funext name
    by_cases heq : name = first
    · subst heq
      rw [Function.update_self, List.count_cons_self, Function.iterate_succ_apply]
    · rw [Function.update_of_ne heq, List.count_cons_of_ne (Ne.symm heq)]

end

/-- Lines are added to a recipe one by one. -/
theorem iterate_addRecipe (command : List Char) (count : Nat) (target : Target) :
    (fun t : Target => { t with recipe := t.recipe ++ [command] })^[count] target =
      { target with recipe := target.recipe ++ List.replicate count command } := by
  induction count with
  | zero => simp
  | succ count ih =>
    rw [Function.iterate_succ_apply', ih, List.replicate_succ']
    simp

/-- Prerequisites are added rule by rule. -/
theorem iterate_addPrerequisites (prerequisites : List (List Char)) (count : Nat)
    (target : Target) :
    (fun t : Target =>
        { t with prerequisites := t.prerequisites ++ prerequisites })^[count] target =
      { target with
        prerequisites :=
          target.prerequisites ++ (List.replicate count prerequisites).flatten } := by
  induction count with
  | zero => simp
  | succ count ih =>
    rw [Function.iterate_succ_apply', ih, List.replicate_succ']
    simp

/-! ### The reader -/

/-- What the reader knows after some lines. -/
def stateBehind (lines : List Line) : State :=
  ⟨table (mentioned lines).eraseDups (described lines), ownersBehind lines⟩

/-- From one line to the next the reader keeps to what the lines say. -/
theorem read_stateBehind (lines : List Line) (line : Line) :
    (stateBehind lines).read line = stateBehind (lines ++ [line]) := by
  have hunnamed : ∀ name, name ∉ mentioned lines → described lines name = ⟨[], []⟩ :=
    fun _ => described_of_notMem
  have hdescribed := funext (described_append lines line)
  simp only [stateBehind, mentioned_append, ownersBehind_append, hdescribed]
  cases line with
  | recipe command =>
    -- All targets that are changed are in the table already.
    simp only [State.read, foldl_update_table _ hunnamed, iterate_addRecipe,
      eraseDups_append_of_subset (ownersBehind_subset lines)]
    simp [Line.names, Line.separates, described]
  | nothing => simp [State.read, Line.names, Line.separates]
  | rule names prerequisites =>
    simp only [State.read, foldl_update_table _ hunnamed, iterate_addPrerequisites]
    simp [Line.names, Line.separates, described]
  | other => simp [State.read, Line.names, Line.separates]

/-- Behind all lines the reader knows what they say. -/
theorem foldl_read (lines : List Line) : lines.foldl State.read ⟨[], []⟩ = stateBehind lines := by
  induction lines using List.reverseRecOn with
  | nil => rfl
  | append_singleton lines line ih => rw [List.foldl_concat, ih, read_stateBehind]

/-- The targets of a text are those that are named on its lines, with what the lines say about
them. -/
theorem targets_eq (text : List Char) : targets text =
    table (mentioned ((logicalLines text).map classify)).eraseDups
      (described ((logicalLines text).map classify)) := by
  unfold targets
  rw [← List.foldl_map, foldl_read]
  rfl

/-- A Makefile is read as an object with the targets that its rules name, in the order in which they
are first named. Each comes with the prerequisites of all rules that name it and with the recipe
lines for which it is named on the last line before them that is neither part of a recipe nor says
nothing. -/
theorem parse_eq_described (text : String) : ∃ lines : List Line,
    (∀ kinds, List.Forall₂ Reads (logicalLines text.toList) kinds ↔ kinds = lines) ∧
    parse text = .object ((mentioned lines).eraseDups.map fun name => (String.ofList name,
      .object [("dependencies", .string (joinWith ' ' (prerequisitesOf name lines))),
        ("contents", .string (joinWith '\n' (recipeOf name lines)))])) := by
  refine ⟨(logicalLines text.toList).map classify, fun _ => forall₂_reads_iff, ?_⟩
  rw [parse, targets_eq, table, List.map_map]
  rfl

end Conventions.Makefile
