import Conventions.Check.PackageName
import Conventions.Check.ServiceName
import Conventions.Proofs.Check.Naming
import Conventions.Proofs.Insertion

/-!
# Names that were fixed

A fix of a name changes one entry of a document: in place if the key is there, at the end
otherwise. Provided that the document reads back as it was printed, the file then holds it, the
name in it is right, and another check leaves everything as it is.
-/

namespace Conventions

/-! ### One entry set -/

/-- The entries differ in the value under one key: the first entry of the key has another value,
or the key is new and comes last. -/
inductive SetAt {κ α : Type} (key : κ) (value : α) : List (κ × α) → List (κ × α) → Prop
  | inPlace (before after : List (κ × α)) (old : α) (hbefore : key ∉ before.map Prod.fst) :
      SetAt key value (before ++ (key, old) :: after) (before ++ (key, value) :: after)
  | atEnd (entries : List (κ × α)) (hentries : key ∉ entries.map Prod.fst) :
      SetAt key value entries (entries ++ [(key, value)])

/-- An entry of another key may come before the one that differs. -/
theorem SetAt.cons {κ α : Type} {key : κ} {value : α} {entries others : List (κ × α)}
    {entry : κ × α} (hne : key ≠ entry.1) (h : SetAt key value entries others) :
    SetAt key value (entry :: entries) (entry :: others) := by
  cases h with
  | inPlace before after old hbefore =>
    refine .inPlace (entry :: before) after old ?_
    rw [List.map_cons, List.mem_cons, not_or]
    exact ⟨hne, hbefore⟩
  | atEnd _ hentries =>
    refine .atEnd (entry :: entries) ?_
    rw [List.map_cons, List.mem_cons, not_or]
    exact ⟨hne, hentries⟩

/-- An insertion sets the entry of its key. -/
theorem Entries.setAt_insert {α : Type} (key : String) (value : α) (entries : Entries α) :
    SetAt key value entries (insert key value entries) := by
  induction entries with
  | nil => exact .atEnd [] (by simp)
  | cons entry rest ih =>
    obtain ⟨k, old⟩ := entry
    unfold insert
    by_cases heq : k = key
    · rw [if_pos heq, heq]
      exact .inPlace [] rest old (by simp)
    · rw [if_neg heq]
      exact ih.cons (Ne.symm heq)

/-- To set the entry of a key is to insert it. -/
theorem SetAt.eq_insert {α : Type} {key : String} {value : α} {entries others : Entries α}
    (h : SetAt key value entries others) : others = Entries.insert key value entries := by
  cases h with
  | inPlace before after old hbefore =>
    simp [Entries.insert_append_of_notMem hbefore, Entries.insert]
  | atEnd _ hentries =>
    simpa [Entries.insert] using (Entries.insert_append_of_notMem hentries value []).symm

namespace Yaml

/-- A text is the same key as itself only. -/
theorem same_string_iff {key : Yaml} {name : String} :
    same key (.string name) = true ↔ key = .string name := by
  cases key <;> simp [same]

/-- An insertion sets the entry of its key. -/
theorem setAt_insert (name : String) (value : Yaml) (entries : List (Yaml × Yaml)) :
    SetAt (.string name) value entries (insert (.string name) value entries) := by
  induction entries with
  | nil => exact .atEnd [] (by simp)
  | cons entry rest ih =>
    obtain ⟨k, old⟩ := entry
    unfold insert
    by_cases heq : same k (.string name) = true
    · rw [if_pos heq, same_string_iff.mp heq]
      exact .inPlace [] rest old (by simp)
    · rw [if_neg heq]
      exact ih.cons fun hkey => heq (same_string_iff.mpr hkey.symm)

/-- An insertion behind entries that do not have its key. -/
theorem insert_append_of_notMem {name : String} {before : List (Yaml × Yaml)}
    (h : .string name ∉ before.map Prod.fst) (value : Yaml) (rest : List (Yaml × Yaml)) :
    insert (.string name) value (before ++ rest) =
      before ++ insert (.string name) value rest := by
  induction before with
  | nil => rfl
  | cons entry before ih =>
    rw [List.map_cons, List.mem_cons, not_or] at h
    have hother : ¬ same entry.1 (.string name) = true := fun hsame =>
      h.1 (same_string_iff.mp hsame).symm
    simp [insert, hother, ih h.2]

/-- To set the entry of a key is to insert it. -/
theorem eq_insert_of_setAt {name : String} {value : Yaml} {entries others : List (Yaml × Yaml)}
    (h : SetAt (.string name) value entries others) :
    others = insert (.string name) value entries := by
  cases h with
  | inPlace before after old hbefore =>
    have hself : same (.string name) (.string name) = true := same_string_iff.mpr rfl
    simp [insert_append_of_notMem hbefore, insert, hself]
  | atEnd _ hentries => simpa [insert] using (insert_append_of_notMem hentries value []).symm

/-- An inserted value is found. -/
theorem lookup?_insert_self (name : String) (value : Yaml) (entries : List (Yaml × Yaml)) :
    lookup? (.string name) (insert (.string name) value entries) = some value := by
  induction entries with
  | nil => simp [insert, lookup?, same]
  | cons entry rest ih =>
    unfold insert
    by_cases heq : same entry.1 (.string name) = true
    · simp [heq, lookup?]
    · simp [heq, lookup?, ih]

end Yaml

/-! ### One field set -/

/-- A document is another one with a value under a name: both are objects that differ in this
one entry. -/
inductive Json.SetField (name : String) (value : Json) : Json → Json → Prop
  | object {fields others : Entries Json} (h : SetAt name value fields others) :
      SetField name value (.object fields) (.object others)

/-- A document is another one with a value under a name: both are mappings that differ in this
one entry, under the same tags. -/
inductive Yaml.SetField (name : String) (value : Yaml) : Yaml → Yaml → Prop
  | mapping {entries others : List (Yaml × Yaml)} (h : SetAt (.string name) value entries others) :
      SetField name value (.mapping entries) (.mapping others)
  | tagged (tag : String) {old new : Yaml} (h : SetField name value old new) :
      SetField name value (.tagged tag old) (.tagged tag new)

/-- The field that is set is found. -/
theorem Json.SetField.field?_eq {name : String} {value document other : Json}
    (h : SetField name value document other) : other.field? name = some value := by
  cases h with
  | object hset =>
    rw [hset.eq_insert]
    simp [field?, Entries.find?_insert]

/-- The field that is set is found. -/
theorem Yaml.SetField.field?_eq {name : String} {value document other : Yaml}
    (h : SetField name value document other) : other.field? name = some value := by
  induction h with
  | mapping hset =>
    rw [eq_insert_of_setAt hset]
    exact lookup?_insert_self _ _ _
  | tagged tag _ ih => exact ih

/-- The object in which a field is set is known. -/
theorem Json.SetField.eq_object {name : String} {value other : Json} {fields : Entries Json}
    (h : SetField name value (.object fields) other) :
    other = .object (Entries.insert name value fields) := by
  cases h with
  | object hset => rw [hset.eq_insert]

/-- The mapping in which a field is set is known. -/
theorem Yaml.SetField.eq_mapping {name : String} {value other : Yaml} {entries : List (Yaml × Yaml)}
    (h : SetField name value (.mapping entries) other) :
    other = .mapping (insert (.string name) value entries) := by
  cases h with
  | mapping hset => rw [eq_insert_of_setAt hset]

/-- A value with another one under a name differs in this field. -/
theorem Yaml.setField_of_withField? {name : String} {value document other : Yaml}
    (h : withField? name value document = some other) : SetField name value document other := by
  induction document using withField?.induct generalizing other with
  | case1 entries =>
    cases h
    exact .mapping (setAt_insert name value entries)
  | case2 tag below ih =>
    obtain ⟨inner, hinner, rfl⟩ := Option.map_eq_some_iff.mp h
    exact .tagged tag (ih hinner)
  | case3 document hmapping htagged => simp [withField?] at h

/-! ### Files that hold documents -/

/-- A file holds a document that a parser reads from it. -/
def Workspace.Holds {ε δ : Type} (workspace : Workspace) (parse : String → Except ε δ)
    (path : RepoPath) (document : δ) : Prop :=
  ∃ text, workspace.read path = .ok text ∧ parse text = .ok document

/-- The documents that a check of names reads and prints. -/
structure NameCheck.Documents (check : NameCheck) (ε δ : Type) where
  parse : String → Except ε δ
  print : δ → String
  /-- A document is another one with the name of a module. -/
  Renamed : RepoModule → δ → δ → Prop
  renamed_of_mendable : ∀ {module : RepoModule} {text mended : String},
    check.judge module text = .mendable mended →
      ∃ old new, parse text = .ok old ∧ Renamed module old new ∧ print new = mended
  inOrder_of_renamed : ∀ {module : RepoModule} {text : String} {old new : δ},
    parse text = .ok new → Renamed module old new → check.judge module text = .inOrder

/-- Manifests are printed with indentation. -/
def PackageName.documents : nameCheck.Documents Json.Fault Json where
  parse := Json.parse
  print := Json.indented
  Renamed module := Json.SetField nameKey (.string module.name)
  renamed_of_mendable := by
    intro module text mended h
    obtain ⟨manifest, fields, hparse, hfields, rfl⟩ : ∃ manifest fields,
        Json.parse text = .ok manifest ∧ manifest.asObject? = some fields ∧
          (Json.object (Entries.insert nameKey (.string module.name) fields)).indented = mended := by
      simp only [nameCheck, judge, named?] at h
      split at h
      · cases h
      · next manifest hparse =>
        split at h
        · cases h
        · split at h
          · next named hnamed =>
            obtain ⟨fields, hfields, rfl⟩ := Option.map_eq_some_iff.mp hnamed
            cases h
            exact ⟨manifest, fields, hparse, hfields, rfl⟩
          · cases h
    cases manifest with
    | object _ =>
      cases hfields
      exact ⟨_, _, hparse, .object (Entries.setAt_insert nameKey _ fields), rfl⟩
    | _ => cases hfields
  inOrder_of_renamed := by
    intro module text old new hparse hset
    have hnamed : isNamed module new = true := by
      simp [isNamed, nameOf, hset.field?_eq, Json.asString?, Text.endsWith]
    simp [nameCheck, judge, hparse, hnamed]

/-- Descriptions are printed in block style. -/
def ServiceName.documents : nameCheck.Documents Yaml.Problem Yaml where
  parse := Yaml.parse
  print := Yaml.text
  Renamed module := Yaml.SetField nameKey (.string module.name)
  renamed_of_mendable := by
    intro module text mended h
    simp only [nameCheck, judge, named?] at h
    split at h
    · cases h
    · next description hparse =>
      split at h
      · cases h
      · split at h
        · next named hnamed =>
          cases h
          exact ⟨description, named, hparse, Yaml.setField_of_withField? hnamed, rfl⟩
        · cases h
  inOrder_of_renamed := by
    intro module text old new hparse hset
    have hnamed : isNamed module new = true := by
      simp [isNamed, hset.field?_eq, Yaml.asString?, Yaml.untagged]
    simp [nameCheck, judge, hparse, hnamed]

/-! ### Files that were fixed -/

/-- What checks find one after the other is found by one of them, on the workspace that those
before it left. -/
theorem exists_of_mem_checkEach {α : Type} {check : Workspace → α → Findings}
    {workspace : Workspace} {items : List α} {finding : Finding}
    (h : finding ∈ (checkEach check workspace items).1) :
    ∃ earlier item later, items = earlier ++ item :: later ∧
      finding ∈ (check (checkEach check workspace earlier).2 item).1 := by
  induction items generalizing workspace with
  | nil => cases h
  | cons first rest ih =>
    have hsplit : finding ∈ (check workspace first).1 ++
        (checkEach check (check workspace first).2 rest).1 := h
    rcases List.mem_append.mp hsplit with hfirst | hrest
    · exact ⟨[], first, rest, rfl, hfirst⟩
    · obtain ⟨earlier, item, later, rfl, hfound⟩ := ih hrest
      exact ⟨first :: earlier, item, later, rfl, hfound⟩

namespace NameCheck

variable {check : NameCheck} {ε δ : Type}

/-- What is said of a file of a module that is in order. -/
def approval (check : NameCheck) (module : RepoModule) (name : String) : Finding :=
  check.finding module (module.file name) true ("\"" ++ check.key ++ "\" is valid")

/-- How a file of a module was fixed: it held a document, another one was written, and behind the
write the file holds this one and there is nothing left to do. The latter two provided that the
document reads back as it was printed. -/
structure FixedAs (check : NameCheck) (parse : String → Except ε δ) (print : δ → String)
    (module : RepoModule) (name : String) (before after : Workspace) (old new : δ) : Prop where
  fileName : check.fileName? module = some name
  held : before.Holds parse (module.file name) old
  written : after.read (module.file name) = .ok (print new)
  holds : parse (print new) = .ok new → after.Holds parse (module.file name) new
  stays : parse (print new) = .ok new →
    ∀ fix, check.checkModule fix after module = ([check.approval module name], after)

/-- A file that is in order is left as it is. -/
theorem checkFile_of_inOrder {workspace : Workspace} {module : RepoModule} {name text : String}
    (hread : workspace.read (module.file name) = .ok text)
    (hjudge : check.judge module text = .inOrder) (fix : Bool) :
    check.checkFile fix workspace module (module.file name) =
      ([check.approval module name], workspace) := by
  simp [checkFile, Workspace.isFile_of_read hread, verdict, hread, hjudge, approval]

/-- Where the check of a module says that a file was fixed, it was. -/
theorem Documents.fixedAs_of_isFixed (documents : check.Documents ε δ) {workspace : Workspace}
    {module : RepoModule} {finding : Finding}
    (hfinding : finding ∈ (check.checkModule true workspace module).1)
    (hfixed : finding.isFixed = true) :
    ∃ name old new, finding.resource = (module.file name).text ∧
      documents.Renamed module old new ∧
      check.FixedAs documents.parse documents.print module name workspace
        (check.checkModule true workspace module).2 old new := by
  cases hname : check.fileName? module with
  | none => simp [checkModule, hname] at hfinding
  | some name =>
    have hrun : ∀ fix workspace, check.checkModule fix workspace module =
        check.checkFile fix workspace module (module.file name) := fun fix workspace => by
      simp only [checkModule, hname]
    let file : NamedFile := ⟨check, module, module.file name⟩
    have hfixing := file.run_fixing workspace
    -- Of the outcomes that a check with fixes has, one only reports a file as fixed.
    have hsame : check.checkModule true workspace module = file.run true workspace := hrun _ _
    rw [hsame] at hfinding ⊢
    generalize (file.run true workspace).1 = findings at hfinding hfixing
    generalize (file.run true workspace).2 = after at hfixing ⊢
    cases hfixing with
    | absent => cases hfinding
    | inOrder only _ _ _ hnot =>
      rw [List.mem_singleton.mp hfinding, hnot] at hfixed
      cases hfixed
    | refused only _ _ _ hnot =>
      rw [List.mem_singleton.mp hfinding, hnot] at hfixed
      cases hfixed
    | fixed only mended _ hfile hverdict hwrite habout =>
      have hjudge : ∃ text, workspace.read (module.file name) = .ok text ∧
          check.judge module text = .mendable mended := by
        simp only [NamedFile.verdict, verdict, file] at hverdict
        split at hverdict
        · cases hverdict
        · next text hread => exact ⟨text, hread, hverdict⟩
      obtain ⟨text, hread, hmendable⟩ := hjudge
      obtain ⟨old, new, hold, hrenamed, rfl⟩ := documents.renamed_of_mendable hmendable
      have hafter : after.read (module.file name) = .ok (documents.print new) :=
        Workspace.read_of_write_of_samePlace hfile hwrite (Workspace.samePlace_of_isFile hfile)
      have hresource : finding.resource = (module.file name).text := by
        rw [List.mem_singleton.mp hfinding]
        exact habout.1
      refine ⟨name, old, new, hresource, hrenamed, hname, ⟨text, hread, hold⟩, hafter,
        fun hback => ⟨_, hafter, hback⟩, fun hback fix => ?_⟩
      rw [hrun]
      exact checkFile_of_inOrder hafter (documents.inOrder_of_renamed hback hrenamed) fix

/-- Where checks of modules say that a file was fixed, it was, from the workspace that the checks
of the modules before left. -/
theorem Documents.exists_fixedAs_of_mem_checkEach (documents : check.Documents ε δ)
    {workspace : Workspace} {modules : List RepoModule} {finding : Finding}
    (hfinding : finding ∈ (checkEach (check.checkModule true) workspace modules).1)
    (hfixed : finding.isFixed = true) :
    ∃ earlier module later before after name old new, modules = earlier ++ module :: later ∧
      (checkEach (check.checkModule true) workspace earlier).2 = before ∧
      (check.checkModule true before module).2 = after ∧
      finding.resource = (module.file name).text ∧ documents.Renamed module old new ∧
      check.FixedAs documents.parse documents.print module name before after old new := by
  obtain ⟨earlier, module, later, hmodules, hfound⟩ := exists_of_mem_checkEach hfinding
  obtain ⟨name, old, new, hresource, hrenamed, hfixedAs⟩ :=
    documents.fixedAs_of_isFixed hfound hfixed
  exact ⟨earlier, module, later, _, _, name, old, new, hmodules, rfl, rfl, hresource, hrenamed,
    hfixedAs⟩

end NameCheck

/-- A fix changes one entry and stays. Where the check of manifests (or of descriptions) says that
the file of a module was fixed, the file held a document before, and right behind the write it
holds the same with nothing but the name (or the service) set: in place if it was there, at the
end otherwise. Checking the module again finds the file in order and writes nothing. It is assumed
that the document reads back as it was printed. -/
theorem fixes_set_name_and_stay (workspace : Workspace) (modules : List RepoModule)
    (finding : Finding) (hfixed : finding.isFixed = true) :
    (finding ∈ (checkEach (PackageName.nameCheck.checkModule true) workspace modules).1 →
      ∃ earlier module later before after name old new, modules = earlier ++ module :: later ∧
        (checkEach (PackageName.nameCheck.checkModule true) workspace earlier).2 = before ∧
        (PackageName.nameCheck.checkModule true before module).2 = after ∧
        finding.resource = (module.file name).text ∧
        Json.SetField PackageName.nameKey (.string module.name) old new ∧
        PackageName.nameCheck.FixedAs Json.parse Json.indented module name before after
          old new) ∧
    (finding ∈ (checkEach (ServiceName.nameCheck.checkModule true) workspace modules).1 →
      ∃ earlier module later before after name old new, modules = earlier ++ module :: later ∧
        (checkEach (ServiceName.nameCheck.checkModule true) workspace earlier).2 = before ∧
        (ServiceName.nameCheck.checkModule true before module).2 = after ∧
        finding.resource = (module.file name).text ∧
        Yaml.SetField ServiceName.nameKey (.string module.name) old new ∧
        ServiceName.nameCheck.FixedAs Yaml.parse Yaml.text module name before after old new) :=
  ⟨fun h => PackageName.documents.exists_fixedAs_of_mem_checkEach h hfixed,
    fun h => ServiceName.documents.exists_fixedAs_of_mem_checkEach h hfixed⟩

/-! ### Documents of texts -/

/-- Items that can be told from what becomes of them. -/
theorem eq_map_of_mapM_eq_some {α β : Type} {step : α → Option β} {back : β → α}
    (hback : ∀ {item result}, step item = some result → item = back result) {items : List α}
    {results : List β} (h : items.mapM step = some results) : items = results.map back := by
  induction items generalizing results with
  | nil =>
    cases h
    rfl
  | cons item rest ih =>
    rw [List.mapM_cons] at h
    obtain ⟨first, hfirst, h⟩ := Option.bind_eq_some_iff.mp h
    obtain ⟨others, hothers, h⟩ := Option.bind_eq_some_iff.mp h
    cases h
    rw [List.map_cons, ← hback hfirst, ← ih hothers]

/-- A field that holds a text. -/
def Json.textField? : String × Json → Option (String × String)
  | (key, .string text) => some (key, text)
  | _ => none

/-- An entry that is a text under a text. -/
def Yaml.textEntry? : Yaml × Yaml → Option (String × String)
  | (.string key, .string text) => some (key, text)
  | _ => none

/-- The texts of an object that holds nothing else. -/
def Json.texts? : Json → Option (List (String × String))
  | .object fields => fields.mapM textField?
  | _ => none

/-- The texts of a mapping that holds nothing else. -/
def Yaml.texts? : Yaml → Option (List (String × String))
  | .mapping entries => entries.mapM textEntry?
  | _ => none

/-- A reader that comes to an object of texts. -/
theorem Json.eq_ok_of_texts? {ε : Type} {result : Except ε Json} (texts : List (String × String))
    (h : result.toOption.any (fun document => document.texts? == some texts) = true) :
    result = .ok (.object (texts.map fun text => (text.1, .string text.2))) := by
  obtain ⟨document, rfl, htexts⟩ := exists_ok_of_any h
  have htexts := beq_iff_eq.mp htexts
  cases document with
  | object fields =>
    rw [← eq_map_of_mapM_eq_some (fun {field text} htext => ?_) htexts]
    obtain ⟨key, value⟩ := field
    cases value with
    | string _ =>
      cases htext
      rfl
    | _ => cases htext
  | _ => cases htexts

/-- A reader that comes to a mapping of texts. -/
theorem Yaml.eq_ok_of_texts? {ε : Type} {result : Except ε Yaml} (texts : List (String × String))
    (h : result.toOption.any (fun document => document.texts? == some texts) = true) :
    result = .ok (.mapping (texts.map fun text => (.string text.1, .string text.2))) := by
  obtain ⟨document, rfl, htexts⟩ := exists_ok_of_any h
  have htexts := beq_iff_eq.mp htexts
  cases document with
  | mapping entries =>
    rw [← eq_map_of_mapM_eq_some (fun {entry text} htext => ?_) htexts]
    obtain ⟨key, value⟩ := entry
    cases key with
    | string _ =>
      cases value with
      | string _ =>
        cases htext
        rfl
      | _ => cases htext
    | _ => cases htext
  | _ => cases htexts

/-! ### A manifest and a description -/

/-- A module with a manifest and a description that carry other names. -/
def wrongNames : Workspace where
  root := .folder [
    ("a", .folder [
      ("package.json", .file (.text "\x7b\"name\": \"x\", \"version\": \"1\"\x7d")),
      ("serverless.yml", .file (.text "provider: aws\n"))])]
  current := []

/-- The module, in which the rule on names of packages is on. -/
def wrongModule : RepoModule :=
  ⟨⟨"a"⟩, "a", {}, [⟨.packageName, .enabled, .packageFile "package.json"⟩]⟩

/-- What the manifest is read as. -/
theorem parse_wrongManifest : Json.parse "\x7b\"name\": \"x\", \"version\": \"1\"\x7d" =
    .ok (.object [("name", .string "x"), ("version", .string "1")]) :=
  Json.eq_ok_of_texts? [("name", "x"), ("version", "1")] (by decide +kernel)

/-- The manifest with the right name reads back. -/
theorem parse_rightManifest :
    Json.parse (Json.object [("name", .string "a"), ("version", .string "1")]).indented =
      .ok (.object [("name", .string "a"), ("version", .string "1")]) :=
  Json.eq_ok_of_texts? [("name", "a"), ("version", "1")] (by decide +kernel)

/-- What the description is read as. -/
theorem parse_wrongDescription :
    Yaml.parse "provider: aws\n" = .ok (.mapping [(.string "provider", .string "aws")]) :=
  Yaml.eq_ok_of_texts? [("provider", "aws")] (by decide +kernel)

/-- The description with the right service reads back. -/
theorem parse_rightDescription :
    Yaml.parse (Yaml.text
        (.mapping [(.string "provider", .string "aws"), (.string "service", .string "a")])) =
      .ok (.mapping [(.string "provider", .string "aws"), (.string "service", .string "a")]) :=
  Yaml.eq_ok_of_texts? [("provider", "aws"), ("service", "a")] (by decide +kernel)

/-- A list of one item is split at this item. -/
theorem eq_of_singleton_eq_append {α : Type} {only item : α} {earlier later : List α}
    (h : [only] = earlier ++ item :: later) : earlier = [] ∧ item = only := by
  cases earlier with
  | nil => exact ⟨rfl, (List.cons.inj h).1.symm⟩
  | cons first rest => simp at h

/-- The name that is there is replaced, the service that is missing comes last, and neither file
is written again. -/
theorem fixes_stay_wrongNames :
    (∃ after, after.Holds Json.parse ⟨"a/package.json"⟩
        (.object [("name", .string "a"), ("version", .string "1")]) ∧
      ∀ fix, PackageName.nameCheck.checkModule fix after wrongModule =
        ([PackageName.nameCheck.approval wrongModule "package.json"], after)) ∧
    (∃ after, after.Holds Yaml.parse ⟨"a/serverless.yml"⟩
        (.mapping [(.string "provider", .string "aws"), (.string "service", .string "a")]) ∧
      ∀ fix, ServiceName.nameCheck.checkModule fix after wrongModule =
        ([ServiceName.nameCheck.approval wrongModule "serverless.yml"], after)) := by
  constructor
  · have hany : (checkEach (PackageName.nameCheck.checkModule true) wrongNames
        [wrongModule]).1.any Finding.isFixed = true := by decide +kernel
    obtain ⟨finding, hfinding, hfixed⟩ := List.any_eq_true.mp hany
    obtain ⟨earlier, module, later, before, after, name, old, new, hmodules, rfl, -, -, hset, h⟩ :=
      (fixes_set_name_and_stay wrongNames [wrongModule] finding hfixed).1 hfinding
    obtain ⟨rfl, rfl⟩ := eq_of_singleton_eq_append hmodules
    cases (rfl : _ = some "package.json").symm.trans h.fileName
    obtain ⟨text, hread, hparse⟩ := h.held
    cases (rfl : wrongNames.read ⟨"a/package.json"⟩ = .ok _).symm.trans hread
    cases parse_wrongManifest.symm.trans hparse
    obtain rfl : new = .object [("name", .string "a"), ("version", .string "1")] :=
      hset.eq_object
    exact ⟨after, h.holds parse_rightManifest, h.stays parse_rightManifest⟩
  · have hany : (checkEach (ServiceName.nameCheck.checkModule true) wrongNames
        [wrongModule]).1.any Finding.isFixed = true := by decide +kernel
    obtain ⟨finding, hfinding, hfixed⟩ := List.any_eq_true.mp hany
    obtain ⟨earlier, module, later, before, after, name, old, new, hmodules, rfl, -, -, hset, h⟩ :=
      (fixes_set_name_and_stay wrongNames [wrongModule] finding hfixed).2 hfinding
    obtain ⟨rfl, rfl⟩ := eq_of_singleton_eq_append hmodules
    cases (rfl : _ = some "serverless.yml").symm.trans h.fileName
    obtain ⟨text, hread, hparse⟩ := h.held
    cases (rfl : wrongNames.read ⟨"a/serverless.yml"⟩ = .ok _).symm.trans hread
    cases parse_wrongDescription.symm.trans hparse
    obtain rfl : new = .mapping [(.string "provider", .string "aws"),
        (.string "service", .string "a")] := by
      rw [hset.eq_mapping]
      simp [Yaml.insert, Yaml.same, ServiceName.nameKey, wrongModule]
    exact ⟨after, h.holds parse_rightDescription, h.stays parse_rightDescription⟩

end Conventions
