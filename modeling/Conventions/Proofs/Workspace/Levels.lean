import Conventions.Proofs.Except
import Conventions.Proofs.Path.Parent
import Conventions.Workspace.Levels

/-!
# The way down to a target

The levels from a root down to a target are given one after the other. Whatever has been given,
the number of levels that are still to come is known, and all of them together are the root and
one level for each name behind it. Names are all that the way follows: where something else is
behind the root, the way ends somewhere else than at the target.
-/

namespace Conventions

namespace RepoPath

/-- What is left behind the start of a list is what follows it. -/
theorem dropStart?_append (start rest : List Component) :
    dropStart? start (start ++ rest) = some rest := by
  induction start with
  | nil => rfl
  | cons component start ih => simpa [dropStart?] using ih

/-- A path that another one contains is that path with more components behind. -/
theorem relativeTo?_of_contains {path base : RepoPath} (h : base.contains path = true) :
    path.relativeTo? base = some (path.components.drop base.components.length) := by
  obtain ⟨rest, hrest⟩ := contains_iff.mp h
  unfold relativeTo?
  rw [← hrest, dropStart?_append, List.drop_left]

/-- A list with something behind its start has this start. -/
theorem eq_append_of_dropStart? {start list rest : List Component}
    (h : dropStart? start list = some rest) : list = start ++ rest := by
  fun_induction dropStart? start list with
  | case1 list => exact Option.some.inj h
  | case2 => cases h
  | case3 start a list ih => rw [ih h, List.cons_append]
  | case4 => cases h

/-- Nothing is left of a path that a base does not contain. -/
theorem relativeTo?_eq_none_iff {path base : RepoPath} :
    path.relativeTo? base = none ↔ base.contains path = false := by
  rw [← Bool.not_eq_true, ← not_iff_not, not_not]
  constructor
  · intro h
    obtain ⟨rest, hrest⟩ := Option.ne_none_iff_exists'.mp h
    exact contains_iff.mpr ⟨rest, (eq_append_of_dropStart? hrest).symm⟩
  · intro h
    rw [relativeTo?_of_contains h]
    exact Option.some_ne_none _

/-- The names among the components of a path can be names of entries. -/
theorem isName_of_mem_components {path : RepoPath} {name : String}
    (h : .name name ∈ path.components) : IsName name := by
  have hinner : .name name ∈ path.pieces.filterMap innerComponent? := by
    unfold components at h
    dsimp only at h
    split at h
    · simpa using h
    · split at h
      · simpa using h
      · exact h
  obtain ⟨piece, hpiece, hcomponent⟩ := List.mem_filterMap.mp hinner
  unfold innerComponent? at hcomponent
  split at hcomponent
  · cases hcomponent
  · next hcounts =>
    obtain ⟨hempty, hdot⟩ := not_or.mp hcounts
    split at hcomponent
    · cases hcomponent
    · next hdots =>
      cases hcomponent
      exact ⟨hempty, hdot, hdots, noSeparator_of_mem_pieces hpiece⟩

/-- The names behind a root can be names of entries. -/
theorem isName_of_mem_names {root target : RepoPath} {name : String}
    (h : name ∈ names (target.components.drop root.components.length)) : IsName name := by
  obtain ⟨component, hcomponent, hname⟩ := List.mem_filterMap.mp h
  split at hname
  · cases hname
    exact isName_of_mem_components (List.mem_of_mem_drop hcomponent)
  · cases hname

/-- Names lead from a root down to a target. -/
def LeadsDownTo (root target : RepoPath) : Prop :=
  ∃ below : List String, target.components = root.components ++ below.map .name

/-- The names lead to the target if nothing else is behind the root. -/
theorem components_append_names_eq_iff {root target : RepoPath} :
    root.components ++ (names (target.components.drop root.components.length)).map .name =
      target.components ↔ root.LeadsDownTo target := by
  constructor
  · exact fun heq => ⟨_, heq.symm⟩
  · rintro ⟨below, hbelow⟩
    have hnames : names (below.map .name) = below := by
      simp [names, List.filterMap_map]
    rw [hbelow, List.drop_left, hnames]

end RepoPath

/-! ### Levels below a path -/

/-- The levels below a path, one for each name. -/
def levelsBelow (path : RepoPath) : List String → List Level
  | [] => []
  | name :: rest => ⟨path.join name, false⟩ :: levelsBelow (path.join name) rest

/-- The levels below a path are followed by those below the last one of them. -/
theorem levelsBelow_append (path : RepoPath) (names more : List String) :
    levelsBelow path (names ++ more) =
      levelsBelow path names ++ levelsBelow (names.foldl RepoPath.join path) more := by
  induction names generalizing path with
  | nil => rfl
  | cons name rest ih =>
    rw [List.cons_append, levelsBelow, levelsBelow, ih, List.foldl_cons, List.cons_append]

/-- Below a path there is no root. -/
theorem isRoot_of_mem_levelsBelow {path : RepoPath} {names : List String} {level : Level}
    (h : level ∈ levelsBelow path names) : level.isRoot = false := by
  induction names generalizing path with
  | nil => cases h
  | cons name rest ih =>
    rcases List.mem_cons.mp h with rfl | hrest
    · rfl
    · exact ih hrest

/-- The last level on the way down is the path that the names lead to. -/
theorem getLast?_path_levels (root : RepoPath) (isRoot : Bool) (names : List String) :
    ((⟨root, isRoot⟩ :: levelsBelow root names : List Level).getLast?).map Level.path =
      some (names.foldl RepoPath.join root) := by
  induction names generalizing root isRoot with
  | nil => rfl
  | cons name rest ih =>
    rw [levelsBelow, List.getLast?_cons_cons, ih, List.foldl_cons]

/-- A level is the directory in another one that has a certain name. -/
def Level.IsIn (level upper : Level) : Prop :=
  ∃ name, RepoPath.IsName name ∧ level.path = upper.path.join name ∧
    level.path.components = upper.path.components ++ [.name name]

/-- Each level below a path is in the one before it. -/
theorem isChain_levelsBelow {names : List String} (h : ∀ name ∈ names, RepoPath.IsName name)
    (path : RepoPath) (isRoot : Bool) :
    (⟨path, isRoot⟩ :: levelsBelow path names : List Level).IsChain
      fun upper level => level.IsIn upper := by
  induction names generalizing path isRoot with
  | nil => exact .singleton _
  | cons name rest ih =>
    obtain ⟨hname, hrest⟩ := List.forall_mem_cons.mp h
    rw [levelsBelow, List.isChain_cons_cons]
    exact ⟨⟨name, hname, rfl, path.components_join hname⟩, ih hrest _ _⟩

/-- A level below a path has components behind those of the path. -/
theorem components_of_mem_levelsBelow {path : RepoPath} {names : List String}
    (h : ∀ name ∈ names, RepoPath.IsName name) {level : Level}
    (hlevel : level ∈ levelsBelow path names) :
    ∃ name rest, level.path.components = path.components ++ .name name :: rest := by
  induction names generalizing path with
  | nil => cases hlevel
  | cons name rest ih =>
    obtain ⟨hname, hrest⟩ := List.forall_mem_cons.mp h
    rcases List.mem_cons.mp hlevel with rfl | hlevel
    · exact ⟨name, [], path.components_join hname⟩
    · obtain ⟨next, more, hlevel⟩ := ih hrest hlevel
      refine ⟨name, .name next :: more, ?_⟩
      rw [hlevel, path.components_join hname, List.append_assoc, List.singleton_append]

/-- The path that names lead to has the names as its last components. -/
theorem components_foldl_join {names : List String} (h : ∀ name ∈ names, RepoPath.IsName name)
    (path : RepoPath) :
    (names.foldl RepoPath.join path).components = path.components ++ names.map .name := by
  induction names generalizing path with
  | nil => simp
  | cons name rest ih =>
    obtain ⟨hname, hrest⟩ := List.forall_mem_cons.mp h
    rw [List.foldl_cons, ih hrest, path.components_join hname, List.append_assoc]
    rfl

namespace Descent

variable {way next rest finished : Descent} {level : Level} {visited more : List Level}

/-! ### One level -/

/-- A level is given unless more levels have been given than there are names. -/
theorem next?_eq_some_iff : way.next? = some (level, next) ↔
    way.given ≤ way.names.length ∧
      level = ⟨(way.names.take way.given).foldl RepoPath.join way.root, way.given == 0⟩ ∧
      next = { way with given := way.given + 1 } := by
  unfold next?
  split
  · next hend =>
    constructor
    · intro h
      cases h
    · rintro ⟨hgiven, -⟩
      omega
  · next hmore =>
    have hgiven : way.given ≤ way.names.length := by omega
    simp [hgiven, eq_comm]

/-- No level is given exactly if none is to come. -/
theorem next?_eq_none_iff : way.next? = none ↔ way.remaining = 0 := by
  unfold next? remaining
  split
  · next hend => simp; omega
  · next hmore => simp; omega

/-- With a level given, one less is to come. -/
theorem remaining_of_next? (h : way.next? = some (level, next)) :
    way.remaining = next.remaining + 1 := by
  obtain ⟨hgiven, -, rfl⟩ := next?_eq_some_iff.mp h
  unfold remaining
  dsimp only
  omega

/-! ### All levels -/

/-- What a way gives, one level after the other, and the way that is left then. -/
inductive Produces : Descent → List Level → Descent → Prop
  | nothing {way : Descent} : Produces way [] way
  | level {way next rest : Descent} {level : Level} {visited : List Level} :
    way.next? = some (level, next) → Produces next visited rest →
      Produces way (level :: visited) rest

/-- What a way gives in two turns it gives one after the other. -/
theorem Produces.trans (h : way.Produces visited next) (h' : next.Produces more rest) :
    way.Produces (visited ++ more) rest := by
  induction h with
  | nothing => exact h'
  | level hnext _ ih => exact .level hnext (ih h')

/-- The levels that are given and those that are still to come then are as many as were to come
before. -/
theorem Produces.remaining (h : way.Produces visited rest) :
    way.remaining = visited.length + rest.remaining := by
  induction h with
  | nothing => simp
  | level hnext _ ih =>
    rw [remaining_of_next? hnext, ih, List.length_cons]
    omega

/-- A way that is at its end gives nothing. -/
theorem Produces.eq_nil (h : way.Produces visited rest) (hend : way.next? = none) :
    visited = [] := by
  cases h with
  | nothing => rfl
  | level hnext _ =>
    rw [hend] at hnext
    cases hnext

/-- Up to its end, a way always gives the same. -/
theorem Produces.unique (h : way.Produces visited rest) (hend : rest.next? = none)
    (h' : way.Produces more finished) (hend' : finished.next? = none) : visited = more := by
  induction h generalizing more with
  | nothing => exact (h'.eq_nil hend).symm
  | level hnext _ ih =>
    cases h' with
    | nothing =>
      rw [hend'] at hnext
      cases hnext
    | level hother hmore =>
      obtain ⟨rfl, rfl⟩ := Prod.mk.inj (Option.some.inj (hnext.symm.trans hother))
      rw [ih hend hmore]

/-- Enough levels are all that are to come. -/
theorem exists_produces_take {count : Nat} (h : way.remaining ≤ count) :
    ∃ finished, way.Produces (way.take count) finished ∧ finished.next? = none := by
  induction count generalizing way with
  | zero => exact ⟨way, .nothing, next?_eq_none_iff.mpr (by omega)⟩
  | succ count ih =>
    unfold take
    cases hnext : way.next? with
    | none => exact ⟨way, .nothing, hnext⟩
    | some given =>
      obtain ⟨level, next⟩ := given
      have hremaining := remaining_of_next? hnext
      obtain ⟨finished, hproduces, hend⟩ := @ih next (by omega)
      exact ⟨finished, .level hnext hproduces, hend⟩

/-- At every point all levels that are still to come are given, as many as are told, and with those
given before they are the levels of the whole way. -/
theorem Produces.exists_coming (h : way.Produces visited finished) (hend : finished.next? = none)
    (hpoint : way.Produces more rest) :
    ∃ coming last, rest.Produces coming last ∧ last.next? = none ∧
      rest.remaining = coming.length ∧ visited = more ++ coming := by
  obtain ⟨last, hcoming, hlast⟩ := exists_produces_take (Nat.le_refl rest.remaining)
  refine ⟨_, last, hcoming, hlast, ?_, h.unique hend (hpoint.trans hcoming) hlast⟩
  have hcount := hcoming.remaining
  rwa [next?_eq_none_iff.mp hlast, Nat.add_zero] at hcount

/-- Behind some of its names, a way gives the levels for the others. -/
theorem produces_levelsBelow (root : RepoPath) (front back : List String) :
    Produces ⟨root, front ++ back, front.length + 1⟩
      (levelsBelow (front.foldl RepoPath.join root) back)
      ⟨root, front ++ back, (front ++ back).length + 1⟩ := by
  induction back generalizing front with
  | nil =>
    rw [List.append_nil]
    exact .nothing
  | cons name back ih =>
    have hrest := ih (front ++ [name])
    rw [List.append_assoc, List.singleton_append, List.foldl_append, List.length_append] at hrest
    refine .level (next?_eq_some_iff.mpr ⟨?_, ?_, rfl⟩) hrest
    · simp
    · have htake : (front ++ name :: back).take (front.length + 1) = front ++ [name] := by
        rw [List.append_cons]
        exact List.take_left' (by simp)
      simp [htake]

/-- A way gives its root and then one level for each of its names. -/
theorem produces_root_cons (root : RepoPath) (names : List String) :
    Produces { root, names } (⟨root, true⟩ :: levelsBelow root names)
      ⟨root, names, names.length + 1⟩ := by
  refine .level (next?_eq_some_iff.mpr ⟨Nat.zero_le _, ?_, rfl⟩)
    (produces_levelsBelow root [] names)
  simp

/-- A way that has given its root and a level for each of its names is at its end. -/
theorem next?_finished (root : RepoPath) (names : List String) :
    next? ⟨root, names, names.length + 1⟩ = none :=
  next?_eq_none_iff.mpr (Nat.sub_self _)

/-- All levels of a way are its root and those below. -/
theorem take_eq_root_cons (root : RepoPath) (names : List String) :
    take (names.length + 1) { root, names } = ⟨root, true⟩ :: levelsBelow root names := by
  have hall : remaining { root, names } ≤ names.length + 1 := by simp [remaining]
  obtain ⟨finished, htake, hend⟩ := exists_produces_take hall
  exact htake.unique hend (produces_root_cons root names) (next?_finished root names)

end Descent

/-! ### From a root to a target -/

variable {root target : RepoPath}

/-- There is a way from a root only to what it contains. -/
theorem contains_of_between {way : Descent} (h : Descent.between root target = .ok way) :
    root.contains target = true := by
  by_contra houtside
  rw [Bool.not_eq_true, ← RepoPath.relativeTo?_eq_none_iff] at houtside
  simp [Descent.between, houtside] at h

/-- The way from a root goes down by the names behind it. -/
theorem levels_of_contains (h : root.contains target = true) :
    levels root target = .ok (⟨root, true⟩ :: levelsBelow root
      (RepoPath.names (target.components.drop root.components.length))) := by
  unfold levels Descent.between
  rw [RepoPath.relativeTo?_of_contains h, ← Descent.take_eq_root_cons]
  rfl

/-- The way from a root to a target starts at the root. -/
theorem levels_eq_root_cons {visited : List Level} (h : levels root target = .ok visited) :
    ∃ below, visited = ⟨root, true⟩ :: below := by
  obtain ⟨way, hway, h⟩ := bind_eq_ok_iff.mp h
  unfold Descent.between at hway
  split at hway
  · cases hway
  · cases hway
    cases h
    exact ⟨_, Descent.take_eq_root_cons _ _⟩

/-- Levels lead down from a root: the first one is the root, no other one is, and each other one is
in the one before it. -/
structure LeadDown (root : RepoPath) (visited : List Level) : Prop where
  head : visited.head? = some ⟨root, true⟩
  below : ∀ level ∈ visited.tail, level.isRoot = false
  chain : visited.IsChain fun upper level => level.IsIn upper

/-- There is no way from a root to a target that the root does not contain, and for no other
reason. -/
theorem levels_eq_error_iff {failure : Failure} : levels root target = .error failure ↔
    root.contains target = false ∧ failure = .outsideRoot target root := by
  cases hcontains : root.contains target with
  | true =>
    rw [levels_of_contains hcontains]
    simp
  | false =>
    unfold levels Descent.between
    rw [RepoPath.relativeTo?_eq_none_iff.mpr hcontains]
    simp [bind, Except.bind, eq_comm]

/-- The levels from a root to a target are there unless the target is outside of the root. They are
what the way gives up to its end. They lead down from the root, along the names behind it, so that
the last one is the target if nothing but names is behind the root, and only then. At every point of
the way, as many levels are told to come as do come, and with those given before they are all. -/
theorem levels_lead_down (root target : RepoPath) :
    (∀ failure, levels root target = .error failure ↔
      root.contains target = false ∧ failure = .outsideRoot target root) ∧
    ∀ way, Descent.between root target = .ok way →
      ∃ visited finished last, levels root target = .ok visited ∧
        way.Produces visited finished ∧ finished.next? = none ∧
        LeadDown root visited ∧ visited.getLast? = some last ∧
        last.path.components = root.components ++
          (RepoPath.names (target.components.drop root.components.length)).map .name ∧
        (last.path.same target = true ↔ root.LeadsDownTo target) ∧
        ∀ given rest, way.Produces given rest →
          ∃ coming ended, rest.Produces coming ended ∧ ended.next? = none ∧
            rest.remaining = coming.length ∧ visited = given ++ coming := by
  refine ⟨fun failure => levels_eq_error_iff, fun way hway => ?_⟩
  have hcontains := contains_of_between hway
  have hnames : ∀ name ∈ RepoPath.names (target.components.drop root.components.length),
      RepoPath.IsName name := fun name hname => RepoPath.isName_of_mem_names hname
  unfold Descent.between at hway
  rw [RepoPath.relativeTo?_of_contains hcontains] at hway
  obtain rfl := Except.ok.inj hway
  obtain ⟨last, hlast, hpath⟩ := Option.map_eq_some_iff.mp (getLast?_path_levels root true _)
  have hcomponents := components_foldl_join hnames root
  have hproduces := Descent.produces_root_cons root
    (RepoPath.names (target.components.drop root.components.length))
  have hend := Descent.next?_finished root
    (RepoPath.names (target.components.drop root.components.length))
  refine ⟨_, _, last, levels_of_contains hcontains, hproduces, hend, ⟨rfl, ?_, ?_⟩, hlast, ?_, ?_,
    fun given rest hpoint => hproduces.exists_coming hend hpoint⟩
  · exact fun level hlevel => isRoot_of_mem_levelsBelow hlevel
  · exact isChain_levelsBelow hnames root true
  · rw [hpath, hcomponents]
  · rw [RepoPath.same_iff, hpath, hcomponents]
    exact RepoPath.components_append_names_eq_iff

/-- On a way through two directories, written with doubled and trailing separators, two more levels
are to come behind the root. -/
theorem levels_lead_down_doubledSeparators :
    ∃ way visited last, Descent.between ⟨"."⟩ ⟨"./a//b/"⟩ = .ok way ∧
      levels ⟨"."⟩ ⟨"./a//b/"⟩ = .ok visited ∧ LeadDown ⟨"."⟩ visited ∧
      visited.getLast? = some last ∧ last.path = ⟨"./a/b"⟩ ∧ last.path.same ⟨"./a//b/"⟩ = true ∧
      ∃ coming ended, Descent.Produces ⟨⟨"."⟩, ["a", "b"], 1⟩ coming ended ∧ ended.next? = none ∧
        coming.length = 2 ∧ visited = ⟨⟨"."⟩, true⟩ :: coming := by
  have hway : Descent.between ⟨"."⟩ ⟨"./a//b/"⟩ = .ok ⟨⟨"."⟩, ["a", "b"], 0⟩ := by decide
  obtain ⟨visited, finished, last, hvisited, -, -, hdown, hlast, -, htarget, hpoints⟩ :=
    (levels_lead_down ⟨"."⟩ ⟨"./a//b/"⟩).2 _ hway
  have hroot : Descent.Produces ⟨⟨"."⟩, ["a", "b"], 0⟩ [⟨⟨"."⟩, true⟩] ⟨⟨"."⟩, ["a", "b"], 1⟩ :=
    .level rfl .nothing
  obtain ⟨coming, ended, hcoming, hend, hcount, hall⟩ := hpoints _ _ hroot
  have hpath : last.path = ⟨"./a/b"⟩ := by
    have hlevels : levels ⟨"."⟩ ⟨"./a//b/"⟩ =
        .ok [⟨⟨"."⟩, true⟩, ⟨⟨"./a"⟩, false⟩, ⟨⟨"./a/b"⟩, false⟩] := by decide
    rw [hvisited] at hlevels
    rw [Except.ok.inj hlevels] at hlast
    cases hlast
    rfl
  refine ⟨_, visited, last, hway, hvisited, hdown, hlast, hpath, htarget.mpr ⟨["a", "b"], ?_⟩,
    coming, ended, hcoming, hend, hcount.symm, hall⟩
  decide

/-- A way that goes up behind its root is taken as if it did not, and ends beside its target: not
all ways end at their targets. -/
theorem not_last_isTarget_behindParent :
    levels ⟨"/repo"⟩ ⟨"/repo/../other"⟩ =
        .ok [⟨⟨"/repo"⟩, true⟩, ⟨⟨"/repo/other"⟩, false⟩] ∧
      ¬ ∀ (root target : RepoPath) (visited : List Level), levels root target = .ok visited →
        ∃ last, visited.getLast? = some last ∧ last.path.same target = true := by
  have hlevels : levels ⟨"/repo"⟩ ⟨"/repo/../other"⟩ =
      .ok [⟨⟨"/repo"⟩, true⟩, ⟨⟨"/repo/other"⟩, false⟩] := by decide
  refine ⟨hlevels, fun hall => ?_⟩
  obtain ⟨last, hlast, hsame⟩ := hall _ _ _ hlevels
  cases hlast
  revert hsame
  decide

end Conventions
