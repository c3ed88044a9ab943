import Conventions.Proofs.Path
import Conventions.Proofs.Report.Headings

/-!
# What a report accounts for

Each line of a report says one thing, and the text of the report is made of these lines. Grouping
the findings by resource neither loses a finding nor repeats one. So each problem has one line,
under the heading of its resource, and the last line counts these lines.
-/

namespace Conventions

/-- In ascending entries nothing is found under a key that comes before the first. -/
theorem Entries.Ascending.find?_of_before {α : Type} {key first : String} {value : α}
    {rest : Entries α} (h : Entries.Ascending ((first, value) :: rest))
    (hbefore : textBefore key first = true) :
    Entries.find? key ((first, value) :: rest) = none := by
  have hne : first ≠ key := by
    rintro rfl
    rw [isLinear_textBefore.irrefl] at hbefore
    cases hbefore
  cases hfind : Entries.find? key ((first, value) :: rest) with
  | none => rfl
  | some found =>
    have hafter := isLinear_textBefore.asymm (h.before_of_find? hfind hne)
    rw [hbefore] at hafter
    cases hafter

namespace Report

/-! ### Lines -/

/-- What a line of a report says. -/
inductive Line where
  | blank
  /-- The resource that what follows is about. -/
  | heading (resource : String)
  /-- A finding that is in order. -/
  | success (finding : Finding)
  /-- A problem. -/
  | error (finding : Finding)
  /-- The message of the fix of the problem on the line before. -/
  | fixMessage (message : String)
  /-- How many findings are in order. -/
  | successes (count : Nat)
  /-- How many problems there are, how many were fixed, and how many could be. -/
  | problems (count fixed fixable : Nat)
  deriving DecidableEq, Repr

namespace Line

/-- A line as it is written. -/
def text (style : Style) : Line → String
  | blank => ""
  | heading resource => style.shown resource
  | success finding => successLine style finding
  | error finding => "  error " ++ style.shown (finding.message?.getD "") ++ " " ++ finding.rule ++
      annotation finding.fix?
  | fixMessage message => "    " ++ style.shown message
  | successes count => "✓ " ++ toString count ++ " checks successful"
  | problems count fixed fixable =>
    "✖ " ++ toString count ++ " problems found" ++ fixSummary fixed fixable

/-- The resource in a heading. -/
def heading? : Line → Option String
  | heading resource => some resource
  | _ => none

/-- The finding on a success line. -/
def success? : Line → Option Finding
  | success finding => some finding
  | _ => none

/-- The finding on an error line. -/
def error? : Line → Option Finding
  | error finding => some finding
  | _ => none

end Line

variable {style : Style}

/-- The line with the message of a fix, if it is shown. -/
def fixMessageLines (style : Style) (fix? : Option Fix) : List Line :=
  match fix? with
  | some ⟨state, some message⟩ =>
    if style.verbose || state == .notPossible then [.fixMessage message] else []
  | _ => []

/-- The lines for a problem. -/
def errorLines (style : Style) (finding : Finding) : List Line :=
  .error finding :: fixMessageLines style finding.fix?

/-- The lines of a section. -/
def sectionLines (style : Style) (group : String × List Finding) : List Line :=
  .heading group.1 ::
    ((if style.verbose then (group.2.filter (·.valid)).map .success else []) ++
      (group.2.filter (!·.valid)).flatMap (errorLines style) ++ [.blank])

/-- The lines that count. -/
def countLines (style : Style) (fixed : Nat) (findings : List Finding) : List Line :=
  let problems := findings.filter (!·.valid)
  (if style.verbose then [.successes (findings.countP (·.valid))] else []) ++
    [.problems problems.length fixed (problems.countP (·.isFixable))]

/-- What a report says, line by line. -/
def reportLines (style : Style) (fixed : Nat) (findings : List Finding) : List Line :=
  .blank :: (listed style findings).flatMap (sectionLines style) ++ countLines style fixed findings

/-- The text of a fix message line is the shown message. -/
theorem map_text_fixMessageLines (fix? : Option Fix) :
    (fixMessageLines style fix?).map (Line.text style) = fixLines style fix? := by
  rcases fix? with _ | ⟨state, _ | message⟩
  · rfl
  · rfl
  · exact apply_ite (List.map (Line.text style)) _ _ _

/-- The text of the lines for a problem is what is written for it. -/
theorem map_text_errorLines (finding : Finding) :
    (errorLines style finding).map (Line.text style) = problemLines style finding := by
  rw [errorLines, problemLines, List.map_cons, map_text_fixMessageLines]
  rfl

/-- The text of a report is that of its lines. -/
theorem textLines_eq_map (style : Style) (fixed : Nat) (findings : List Finding) :
    textLines style fixed findings = (reportLines style fixed findings).map (Line.text style) := by
  have hsection : ∀ group : String × List Finding,
      style.shown group.1 :: findingLines style group.2 =
        (sectionLines style group).map (Line.text style) := by
    intro group
    have hsuccesses : (if style.verbose then (group.2.filter (·.valid)).map (successLine style)
        else []) = (if style.verbose then (group.2.filter (·.valid)).map Line.success
          else []).map (Line.text style) := by
      split
      · rw [List.map_map]
        rfl
      · rfl
    rw [findingLines, sectionLines, List.map_cons, List.map_append, List.map_append,
      List.map_flatMap, ← hsuccesses]
    simp only [map_text_errorLines]
    rfl
  have hcounts : summaryLines style fixed findings =
      (countLines style fixed findings).map (Line.text style) := by
    unfold summaryLines countLines
    rw [List.map_append]
    split <;> rfl
  rw [textLines_eq, reportLines, hcounts, List.map_append, List.map_cons, List.map_flatMap]
  simp only [hsection]
  rfl

/-! ### Grouping -/

/-- A finding that joins the group under a key is one more finding. -/
theorem perm_flatMap_insertSorted {groups : Entries (List Finding)} (h : groups.Ascending)
    (key : String) (finding : Finding) :
    ((groups.insertSorted key ((groups.find? key).getD [] ++ [finding])).flatMap (·.2)).Perm
      (groups.flatMap (·.2) ++ [finding]) := by
  induction groups with
  | nil => exact List.Perm.refl _
  | cons entry rest ih =>
    obtain ⟨first, group⟩ := entry
    have ih := ih (List.pairwise_cons.mp h).2
    unfold Entries.insertSorted
    by_cases hbefore : textBefore key first = true
    · rw [if_pos hbefore, h.find?_of_before hbefore]
      exact List.perm_append_comm
    · rw [if_neg hbefore]
      by_cases heq : first = key
      · subst heq
        have hfind : Entries.find? first ((first, group) :: rest) = some group := if_pos rfl
        rw [if_pos rfl, hfind, Option.getD_some, List.flatMap_cons, List.flatMap_cons,
          List.append_assoc, List.append_assoc]
        exact List.perm_append_comm.append_left group
      · have hfind : Entries.find? key ((first, group) :: rest) = Entries.find? key rest :=
          if_neg heq
        rw [if_neg heq, hfind, List.flatMap_cons, List.flatMap_cons, List.append_assoc]
        exact ih.append_left group

/-- The groups hold each finding once. -/
theorem perm_flatMap_byResource (findings : List Finding) :
    ((byResource findings).flatMap (·.2)).Perm findings := by
  induction findings using List.reverseRecOn with
  | nil => exact List.Perm.nil
  | append_singleton findings finding ih =>
    rw [byResource_append]
    exact (perm_flatMap_insertSorted (ascending_byResource findings) _ finding).trans
      (ih.append_right [finding])

/-- Keeping some findings of each group keeps these findings. -/
theorem perm_flatMap_filter (keep : Finding → Bool) (findings : List Finding) :
    ((byResource findings).flatMap fun group => group.2.filter keep).Perm
      (findings.filter keep) := by
  rw [← List.filter_flatMap]
  exact (perm_flatMap_byResource findings).filter keep

/-- A report lists each problem once. -/
theorem perm_problems_listed (style : Style) (findings : List Finding) :
    ((listed style findings).flatMap fun group => group.2.filter (!·.valid)).Perm
      (findings.filter (!·.valid)) := by
  refine List.Perm.trans ?_ (perm_flatMap_filter (!·.valid) findings)
  have hclean : ((byResource findings).filter fun group => group.2.all (·.valid)).flatMap
      (fun group => group.2.filter (!·.valid)) = [] := by
    refine List.flatMap_eq_nil_iff.mpr fun group hgroup => ?_
    simpa using (List.mem_filter.mp hgroup).2
  have hgroups := (List.filter_append_perm (fun group : String × List Finding =>
    group.2.all (·.valid)) (byResource findings)).flatMap_right
      fun group => group.2.filter (!·.valid)
  rw [List.flatMap_append, hclean, List.nil_append] at hgroups
  rw [listed, List.flatMap_append]
  split
  · rwa [hclean, List.nil_append]
  · exact hgroups

/-- A verbose report lists each finding that is in order once. -/
theorem perm_successes_listed (hverbose : style.verbose = true) (findings : List Finding) :
    ((listed style findings).flatMap fun group => group.2.filter (·.valid)).Perm
      (findings.filter (·.valid)) := by
  refine List.Perm.trans ?_ (perm_flatMap_filter (·.valid) findings)
  rw [listed, if_pos hverbose]
  exact (List.filter_append_perm (fun group : String × List Finding =>
    group.2.all (·.valid)) (byResource findings)).flatMap_right
      fun group => group.2.filter (·.valid)

/-! ### What the lines are about -/

/-- The lines for the message of a fix hold nothing else. -/
theorem exists_message_of_mem {fix? : Option Fix} {line : Line}
    (h : line ∈ fixMessageLines style fix?) :
    ∃ message, fix?.bind Fix.message? = some message ∧ line = .fixMessage message := by
  rcases fix? with _ | ⟨state, _ | message⟩
  · cases h
  · cases h
  · exact ⟨message, rfl, List.mem_singleton.mp (List.mem_ite_nil_right.mp h).2⟩

section

variable {α : Type} {read : Line → Option α}
  (hread : ∀ line : Line, line.heading? = none → line.success? = none → line.error? = none →
    read line = none)

include hread

/-- Of the lines for a problem only the first is about a resource or a finding. -/
theorem filterMap_errorLines (finding : Finding) :
    (errorLines style finding).filterMap read = (read (.error finding)).toList := by
  have hfix : (fixMessageLines style finding.fix?).filterMap read = [] := by
    refine List.filterMap_eq_nil_iff.mpr fun line hline => ?_
    obtain ⟨message, -, rfl⟩ := exists_message_of_mem hline
    exact hread _ rfl rfl rfl
  rw [errorLines, List.filterMap_cons, hfix]
  cases read (.error finding) <;> rfl

/-- What is read off the heading of a section and off the lines for its findings. -/
theorem filterMap_sectionLines (group : String × List Finding) :
    (sectionLines style group).filterMap read = (read (.heading group.1)).toList ++
      (if style.verbose then (group.2.filter (·.valid)) else []).filterMap (read ∘ .success) ++
      (group.2.filter (!·.valid)).filterMap (read ∘ .error) := by
  have herrors : ((group.2.filter (!·.valid)).flatMap (errorLines style)).filterMap read =
      (group.2.filter (!·.valid)).filterMap (read ∘ .error) := by
    rw [List.filterMap_flatMap, List.filterMap_eq_flatMap_toList]
    exact List.flatMap_congr fun finding _ => filterMap_errorLines hread finding
  have hsuccesses : (if style.verbose then (group.2.filter (·.valid)).map Line.success
      else []).filterMap read =
        (if style.verbose then group.2.filter (·.valid) else []).filterMap (read ∘ .success) := by
    split
    · exact List.filterMap_map
    · rfl
  rw [sectionLines, List.filterMap_cons, List.filterMap_append, List.filterMap_append, hsuccesses,
    herrors, List.filterMap_cons, hread .blank rfl rfl rfl]
  cases read (.heading group.1) <;> simp

/-- What is read off the lines of a report about resources and findings is read off its sections. -/
theorem filterMap_reportLines (fixed : Nat) (findings : List Finding) :
    (reportLines style fixed findings).filterMap read = (listed style findings).flatMap fun group =>
      (read (.heading group.1)).toList ++
        (if style.verbose then (group.2.filter (·.valid)) else []).filterMap (read ∘ .success) ++
        (group.2.filter (!·.valid)).filterMap (read ∘ .error) := by
  have hcounts : (countLines style fixed findings).filterMap read = [] := by
    refine List.filterMap_eq_nil_iff.mpr fun line hline => ?_
    rcases List.mem_append.mp hline with hline | hline
    · obtain rfl := List.mem_singleton.mp (List.mem_ite_nil_right.mp hline).2
      exact hread _ rfl rfl rfl
    · obtain rfl := List.mem_singleton.mp hline
      exact hread _ rfl rfl rfl
  rw [reportLines, List.filterMap_append, hcounts, List.append_nil, List.filterMap_cons,
    hread .blank rfl rfl rfl, List.filterMap_flatMap]
  simp only [filterMap_sectionLines hread]

end

/-- Each problem has one error line. -/
theorem perm_error? (style : Style) (fixed : Nat) (findings : List Finding) :
    ((reportLines style fixed findings).filterMap Line.error?).Perm
      (findings.filter (!·.valid)) := by
  have hlines : (reportLines style fixed findings).filterMap Line.error? =
      (listed style findings).flatMap fun group => group.2.filter (!·.valid) := by
    rw [filterMap_reportLines fun _ _ _ h => h]
    refine List.flatMap_congr fun group _ => ?_
    have hsuccesses : Line.error? ∘ Line.success = fun _ => none := rfl
    have herrors : Line.error? ∘ Line.error = some := rfl
    rw [hsuccesses, herrors, List.filterMap_some]
    simp [Line.error?]
  rw [hlines]
  exact perm_problems_listed style findings

/-- In a verbose report each finding that is in order has one success line, and in any other report
none has. -/
theorem perm_success? (style : Style) (fixed : Nat) (findings : List Finding) :
    ((reportLines style fixed findings).filterMap Line.success?).Perm
      (if style.verbose then findings.filter (·.valid) else []) := by
  have hlines : (reportLines style fixed findings).filterMap Line.success? =
      (listed style findings).flatMap fun group =>
        if style.verbose then group.2.filter (·.valid) else [] := by
    rw [filterMap_reportLines fun _ _ h _ => h]
    refine List.flatMap_congr fun group _ => ?_
    have hsuccesses : Line.success? ∘ Line.success = some := rfl
    have herrors : Line.success? ∘ Line.error = fun _ => none := rfl
    rw [hsuccesses, herrors, List.filterMap_some]
    simp [Line.success?]
  rw [hlines]
  by_cases hverbose : style.verbose = true
  · simp only [if_pos hverbose]
    exact perm_successes_listed hverbose findings
  · simp [hverbose]

/-- The headings are the listed resources. -/
theorem filterMap_heading? (style : Style) (fixed : Nat) (findings : List Finding) :
    (reportLines style fixed findings).filterMap Line.heading? = (listed style findings).keys := by
  rw [filterMap_reportLines fun _ h _ _ => h, Entries.keys, List.map_eq_flatMap]
  refine List.flatMap_congr fun group _ => ?_
  have hsuccesses : Line.heading? ∘ Line.success = fun _ => none := rfl
  have herrors : Line.heading? ∘ Line.error = fun _ => none := rfl
  rw [hsuccesses, herrors]
  simp [Line.heading?]

/-- A resource has a heading if it has a problem, and in a verbose report also if it has a
finding. -/
theorem mem_heading?_iff {fixed : Nat} {findings : List Finding} {resource : String} :
    resource ∈ (reportLines style fixed findings).filterMap Line.heading? ↔
      ∃ finding ∈ findings, finding.resource = resource ∧
        (style.verbose = true ∨ finding.valid = false) := by
  rw [filterMap_heading?, Entries.keys, List.mem_map]
  constructor
  · rintro ⟨⟨key, group⟩, hmem, rfl⟩
    obtain ⟨rfl, hne, hlisted⟩ := mem_listed_iff.mp hmem
    obtain ⟨finding, habout, hshown⟩ : ∃ finding ∈ about key findings,
        style.verbose = true ∨ finding.valid = false := by
      rcases hlisted with hverbose | ⟨finding, habout, hproblem⟩
      · obtain ⟨finding, habout⟩ := List.exists_mem_of_ne_nil _ hne
        exact ⟨finding, habout, Or.inl hverbose⟩
      · exact ⟨finding, habout, Or.inr hproblem⟩
    obtain ⟨hmem, hresource⟩ := List.mem_filter.mp habout
    exact ⟨finding, hmem, by simpa using hresource, hshown⟩
  · rintro ⟨finding, hmem, rfl, hshown⟩
    have habout : finding ∈ about finding.resource findings :=
      List.mem_filter.mpr ⟨hmem, decide_eq_true rfl⟩
    exact ⟨(finding.resource, about finding.resource findings),
      mem_listed_iff.mpr ⟨rfl, List.ne_nil_of_mem habout,
        hshown.imp_right fun hproblem => ⟨finding, habout, hproblem⟩⟩, rfl⟩

/-- A resource has a problem. -/
def HasProblem (findings : List Finding) (resource : String) : Prop :=
  ∃ finding ∈ findings, finding.resource = resource ∧ finding.valid = false

instance (findings : List Finding) : DecidablePred (HasProblem findings) :=
  fun _ => inferInstanceAs (Decidable (∃ finding ∈ findings, _))

/-- The headings of resources with problems are in ascending order. -/
theorem pairwise_heading? (style : Style) (fixed : Nat) (findings : List Finding) :
    (((reportLines style fixed findings).filterMap Line.heading?).filter
      (HasProblem findings ·)).Pairwise fun a b => textBefore a b = true := by
  -- The groups in which everything is in order come first, and none of them remains.
  have hclean : (if style.verbose then (byResource findings).filter fun group =>
      group.2.all (·.valid) else []).filter ((HasProblem findings ·) ∘ fun group => group.1) =
        [] := by
    refine List.filter_eq_nil_iff.mpr ?_
    rintro ⟨resource, group⟩ hmem
    obtain ⟨hmem, hvalid⟩ := List.mem_filter.mp (List.mem_ite_nil_right.mp hmem).2
    obtain ⟨rfl, -⟩ := mem_byResource_iff.mp hmem
    rintro hproblem
    obtain ⟨finding, hfinding, hresource, hinvalid⟩ := of_decide_eq_true hproblem
    have habout : finding ∈ about resource findings :=
      List.mem_filter.mpr ⟨hfinding, decide_eq_true hresource⟩
    rw [List.all_eq_true.mp hvalid finding habout] at hinvalid
    cases hinvalid
  rw [filterMap_heading?, Entries.keys, List.filter_map, listed, List.filter_append, hclean,
    List.nil_append]
  exact List.pairwise_map.mpr (((ascending_byResource findings).filter _).filter _)

/-! ### Headings -/

/-- The finding on a line. -/
def Line.finding? (line : Line) : Option Finding := line.success?.or line.error?

/-- Each line with a finding stands under the heading of its resource: the last heading before it,
or the given one if there is none before it. -/
def Headed (resource? : Option String) : List Line → Prop
  | [] => True
  | line :: rest =>
    (∀ finding, line.finding? = some finding → resource? = some finding.resource) ∧
      Headed (line.heading?.or resource?) rest

/-- Lines without a heading may come between a heading and other lines if what they hold is about
its resource. -/
theorem headed_append {resource : String} {before after : List Line}
    (hheading : ∀ line ∈ before, line.heading? = none)
    (hfinding : ∀ line ∈ before, ∀ finding, line.finding? = some finding →
      finding.resource = resource)
    (hafter : Headed (some resource) after) : Headed (some resource) (before ++ after) := by
  induction before with
  | nil => exact hafter
  | cons line before ih =>
    obtain ⟨hline, hheading⟩ := List.forall_mem_cons.mp hheading
    obtain ⟨habout, hfinding⟩ := List.forall_mem_cons.mp hfinding
    refine ⟨fun finding hsome => congrArg some (habout finding hsome).symm, ?_⟩
    rw [hline]
    exact ih hheading hfinding

/-- Below its heading a section has only what is said about the findings of its group. -/
theorem eq_or_of_mem_tail_sectionLines {group : String × List Finding} {line : Line}
    (h : line ∈ (sectionLines style group).tail) :
    line = .blank ∨ ∃ finding ∈ group.2, line = .success finding ∨ line = .error finding ∨
      ∃ message ∈ finding.fix?.bind Fix.message?, line = .fixMessage message := by
  rw [sectionLines, List.tail_cons, List.mem_append, List.mem_append] at h
  rcases h with (hsuccess | herror) | hblank
  · obtain ⟨finding, hmem, rfl⟩ := List.mem_map.mp (List.mem_ite_nil_right.mp hsuccess).2
    exact Or.inr ⟨finding, (List.mem_filter.mp hmem).1, Or.inl rfl⟩
  · obtain ⟨finding, hmem, hline⟩ := List.mem_flatMap.mp herror
    refine Or.inr ⟨finding, (List.mem_filter.mp hmem).1, Or.inr ?_⟩
    rcases List.mem_cons.mp hline with rfl | hfix
    · exact Or.inl rfl
    · exact Or.inr (exists_message_of_mem hfix)
  · exact Or.inl (List.mem_singleton.mp hblank)

/-- A section has no heading but its first line, and the findings on its lines are about the
resource if those of the group are. -/
theorem of_mem_tail_sectionLines {group : String × List Finding}
    (hgroup : ∀ finding ∈ group.2, finding.resource = group.1) {line : Line}
    (h : line ∈ (sectionLines style group).tail) :
    line.heading? = none ∧
      ∀ finding, line.finding? = some finding → finding.resource = group.1 := by
  rcases eq_or_of_mem_tail_sectionLines h with
    rfl | ⟨finding, hmem, rfl | rfl | ⟨message, -, rfl⟩⟩
  · exact ⟨rfl, fun _ hsome => nomatch hsome⟩
  · exact ⟨rfl, fun _ hsome => Option.some.inj hsome ▸ hgroup finding hmem⟩
  · exact ⟨rfl, fun _ hsome => Option.some.inj hsome ▸ hgroup finding hmem⟩
  · exact ⟨rfl, fun _ hsome => nomatch hsome⟩

/-- Sections about the resources of their headings may follow each other. -/
theorem headed_flatMap_sectionLines {groups : Entries (List Finding)} {after : List Line}
    (hgroups : ∀ group ∈ groups, ∀ finding ∈ group.2, finding.resource = group.1)
    (hafter : ∀ resource?, Headed resource? after) (resource? : Option String) :
    Headed resource? (groups.flatMap (sectionLines style) ++ after) := by
  induction groups generalizing resource? with
  | nil => exact hafter resource?
  | cons group groups ih =>
    obtain ⟨hgroup, hgroups⟩ := List.forall_mem_cons.mp hgroups
    rw [List.flatMap_cons, List.append_assoc]
    refine ⟨(fun _ hsome => nomatch hsome), ?_⟩
    exact headed_append (fun line hline => (of_mem_tail_sectionLines hgroup hline).1)
      (fun line hline => (of_mem_tail_sectionLines hgroup hline).2) (ih hgroups _)

/-- Each finding stands under the heading of its resource. -/
theorem headed_reportLines (style : Style) (fixed : Nat) (findings : List Finding) :
    Headed none (reportLines style fixed findings) := by
  refine ⟨(fun _ hsome => nomatch hsome), headed_flatMap_sectionLines ?_ ?_ _⟩
  · rintro ⟨resource, group⟩ hmem finding hfinding
    obtain ⟨rfl, -⟩ := mem_listed_iff.mp hmem
    simpa using (List.mem_filter.mp hfinding).2
  · intro resource?
    unfold countLines
    split <;> simp [Headed, Line.finding?, Line.success?, Line.error?]

/-! ### Texts on one line -/

/-- What a report shows of a finding has no line breaks. -/
structure OnOneLine (finding : Finding) : Prop where
  resource : '\n' ∉ finding.resource.toList
  rule : '\n' ∉ finding.rule.toList
  message : ∀ message ∈ finding.message?, '\n' ∉ message.toList
  fixMessage : ∀ message ∈ finding.fix?.bind Fix.message?, '\n' ∉ message.toList

instance (finding : Finding) : Decidable (OnOneLine finding) :=
  decidable_of_iff ('\n' ∉ finding.resource.toList ∧ '\n' ∉ finding.rule.toList ∧
      (∀ message ∈ finding.message?, '\n' ∉ message.toList) ∧
      ∀ message ∈ finding.fix?.bind Fix.message?, '\n' ∉ message.toList)
    ⟨fun ⟨hresource, hrule, hmessage, hfix⟩ => ⟨hresource, hrule, hmessage, hfix⟩,
      fun ⟨hresource, hrule, hmessage, hfix⟩ => ⟨hresource, hrule, hmessage, hfix⟩⟩

/-- A text that is shown has no line breaks if it has none. -/
theorem newline_notMem_shown {text : String} (h : '\n' ∉ text.toList) (style : Style) :
    '\n' ∉ (style.shown text).toList := by
  rw [Style.shown, Text.erase, String.toList_ofList]
  exact fun hmem => h (Text.eraseFrom_subset _ _ _ hmem)

/-- A number has no line breaks. -/
theorem newline_notMem_toDigits (n : Nat) : '\n' ∉ Nat.toDigits 10 n := by
  intro hmem
  have hdigit := Nat.isDigit_of_mem_toDigits (by decide) (by decide) hmem
  exact absurd hdigit (by decide)

/-- The message of a finding on one line, as it is shown, has no line breaks. -/
theorem OnOneLine.newline_notMem_message {finding : Finding} (h : OnOneLine finding)
    (style : Style) :
    '\n' ∉ (style.shown (finding.message?.getD "")).toList := by
  refine newline_notMem_shown ?_ style
  cases hmessage : finding.message? with
  | none => decide
  | some message => exact h.message message hmessage

/-- What a line of a report says about a resource or a finding has no line breaks. -/
def Line.IsOne : Line → Prop
  | heading resource => '\n' ∉ resource.toList
  | success finding => OnOneLine finding
  | error finding => OnOneLine finding
  | fixMessage message => '\n' ∉ message.toList
  | _ => True

/-- What is written for a line has no line breaks. -/
theorem Line.IsOne.newline_notMem {line : Line} (h : line.IsOne) :
    '\n' ∉ (line.text style).toList := by
  cases line with
  | blank => simp [Line.text]
  | heading resource => exact newline_notMem_shown h style
  | success finding =>
    have hmessage := OnOneLine.newline_notMem_message h style
    have hrule := OnOneLine.rule h
    simp only [Line.text, successLine]
    split <;> simp [hmessage, hrule]
  | error finding =>
    have hmessage := OnOneLine.newline_notMem_message h style
    have hrule := OnOneLine.rule h
    simp only [Line.text, annotation]
    split <;> simp [hmessage, hrule]
  | fixMessage message =>
    have hmessage := newline_notMem_shown h style
    simp [Line.text, hmessage]
  | successes count =>
    simp [Line.text, newline_notMem_toDigits]
  | problems count fixed fixable =>
    simp only [Line.text, fixSummary]
    split_ifs <;> simp [newline_notMem_toDigits]

/-- The lines of a report on findings on one line each are on one line each. -/
theorem isOne_of_mem_reportLines {fixed : Nat} {findings : List Finding}
    (h : ∀ finding ∈ findings, OnOneLine finding) {line : Line}
    (hline : line ∈ reportLines style fixed findings) : line.IsOne := by
  rcases List.mem_append.mp hline with hline | hcount
  · rcases List.mem_cons.mp hline with rfl | hsection
    · trivial
    · obtain ⟨⟨resource, group⟩, hlisted, hline⟩ := List.mem_flatMap.mp hsection
      obtain ⟨rfl, hne, -⟩ := mem_listed_iff.mp hlisted
      have hgroup : ∀ finding ∈ about resource findings,
          finding ∈ findings ∧ finding.resource = resource := by
        intro finding hfinding
        simpa using List.mem_filter.mp hfinding
      rcases List.mem_cons.mp hline with rfl | htail
      · obtain ⟨finding, hfinding⟩ := List.exists_mem_of_ne_nil _ hne
        obtain ⟨hmem, rfl⟩ := hgroup finding hfinding
        exact (h finding hmem).resource
      · rcases eq_or_of_mem_tail_sectionLines htail with
          rfl | ⟨finding, hfinding, rfl | rfl | ⟨message, hmessage, rfl⟩⟩
        · trivial
        · exact h finding (hgroup finding hfinding).1
        · exact h finding (hgroup finding hfinding).1
        · exact (h finding (hgroup finding hfinding).1).fixMessage message hmessage
  · rcases List.mem_append.mp hcount with hcount | hcount
    · obtain rfl := List.mem_singleton.mp (List.mem_ite_nil_right.mp hcount).2
      trivial
    · obtain rfl := List.mem_singleton.mp hcount
      trivial

/-- Lines of which each is ended are the pieces between the ends, behind the last of which there is
nothing. -/
theorem splitWhere_flatMap {lines : List (List Char)} (h : ∀ line ∈ lines, '\n' ∉ line) :
    Text.splitWhere (· == '\n') (lines.flatMap (· ++ ['\n'])) = lines ++ [[]] := by
  induction lines with
  | nil => rfl
  | cons line lines ih =>
    obtain ⟨hline, hlines⟩ := List.forall_mem_cons.mp h
    have hpiece : Text.splitWhere (· == '\n') line = [line] :=
      RepoPath.splitWhere_of_forall_not fun c hc => by
        simpa using fun heq : c = '\n' => hline (heq ▸ hc)
    rw [List.flatMap_cons, List.append_assoc, List.singleton_append,
      RepoPath.splitWhere_append_cons rfl, hpiece, ih hlines]
    rfl

/-- The text of a report falls into its lines. -/
theorem splitWhere_text {findings : List Finding} (h : ∀ finding ∈ findings, OnOneLine finding)
    (style : Style) (fixed : Nat) :
    Text.splitWhere (· == '\n') (text style fixed findings).toList =
      (reportLines style fixed findings).map (fun line => (line.text style).toList) ++ [[]] := by
  have htext : (text style fixed findings).toList = ((reportLines style fixed findings).map
      fun line => (line.text style).toList).flatMap (· ++ ['\n']) := by
    rw [text, textLines_eq_map]
    simp [List.flatMap_map]
  rw [htext]
  refine splitWhere_flatMap ?_
  rintro _ hmem
  obtain ⟨line, hline, rfl⟩ := List.mem_map.mp hmem
  exact (isOne_of_mem_reportLines h hline).newline_notMem

/-! ### Accounting -/

/-- A problem is marked as fixable if there is a fix for it. -/
theorem annotation_eq_fixable_iff (finding : Finding) :
    annotation finding.fix? = " fixable" ↔ finding.isFixable = true := by
  unfold Finding.isFixable Finding.hasFix
  rcases finding.fix? with _ | ⟨_ | _ | _, message?⟩
  · decide
  · simp [ annotation]
  · simp [ annotation]
  · simp [ annotation]

/-- A line other than a heading is an error line if it begins like one. -/
theorem Line.startsWith_error_iff {line : Line} (h : line.heading? = none) :
    Text.startsWith (line.text style) "  error " = true ↔ line.error?.isSome = true := by
  cases line with
  | heading resource => cases h
  | blank => simp [Line.text, Line.error?, Text.startsWith]
  | success finding => simp [Line.text, Line.error?, Text.startsWith, successLine]
  | error finding => simp [Line.text, Line.error?, Text.startsWith]
  | fixMessage message => simp [Line.text, Line.error?, Text.startsWith]
  | successes count => simp [Line.text, Line.error?, Text.startsWith]
  | problems count fixed fixable => simp [Line.text, Line.error?, Text.startsWith]

/-- The last line of a report counts the problems and those that can be fixed. -/
theorem getLast?_reportLines (style : Style) (fixed : Nat) (findings : List Finding) :
    (reportLines style fixed findings).getLast? = some (.problems
      (findings.filter (!·.valid)).length fixed
      ((findings.filter (!·.valid)).countP (·.isFixable))) := by
  rw [reportLines, countLines, ← List.append_assoc, List.getLast?_concat]

/-- A report on findings whose texts have no line breaks accounts for each of them: it falls into
lines, of which one is an error line for each problem, marked if it can be fixed, and one a success
line for each finding that is in order if the report is verbose. Each of these lines stands under
the heading of the resource of its finding, and no resource has two headings. Each resource with a
problem has one, in a verbose report each resource of a finding, and those with problems are in
ascending order. The last line counts the error lines and those of them that are marked as fixable,
and what begins like an error line is one unless it is a heading. -/
theorem text_accounts {findings : List Finding} (h : ∀ finding ∈ findings, OnOneLine finding)
    (style : Style) (fixed : Nat) :
    let lines := reportLines style fixed findings
    let errors := lines.filterMap Line.error?
    let headings := lines.filterMap Line.heading?
    Text.splitWhere (· == '\n') (text style fixed findings).toList =
        lines.map (fun line => (line.text style).toList) ++ [[]] ∧
      errors.Perm (findings.filter (!·.valid)) ∧
      (lines.filterMap Line.success?).Perm
        (if style.verbose then findings.filter (·.valid) else []) ∧
      Headed none lines ∧
      headings.Nodup ∧
      (∀ resource, resource ∈ headings ↔ ∃ finding ∈ findings, finding.resource = resource ∧
        (style.verbose = true ∨ finding.valid = false)) ∧
      ((headings.filter (HasProblem findings ·)).Pairwise fun a b => textBefore a b = true) ∧
      lines.getLast? = some (.problems errors.length fixed
        (errors.countP fun finding => annotation finding.fix? = " fixable")) ∧
      ∀ line ∈ lines, line.heading? = none →
        (Text.startsWith (line.text style) "  error " = true ↔ line.error?.isSome = true) := by
  have herrors := perm_error? style fixed findings
  have hnodup : ((reportLines style fixed findings).filterMap Line.heading?).Nodup := by
    rw [filterMap_heading?]
    exact nodup_listed style findings
  have hlast := getLast?_reportLines style fixed findings
  rw [← herrors.length_eq, ← herrors.countP_eq] at hlast
  refine ⟨splitWhere_text h style fixed, herrors, perm_success? style fixed findings,
    headed_reportLines style fixed findings, hnodup, fun _ => mem_heading?_iff,
    pairwise_heading? style fixed findings, ?_, fun _ _ => Line.startsWith_error_iff⟩
  simpa only [annotation_eq_fixable_iff, Bool.decide_eq_true] using hlast

/-- A finding that a package is not called as it should be, which can be fixed. -/
def misnamedPackage : Finding :=
  { problem "/repo/b/package.json" with
    rule := "packagejson-same-name"
    message? := some "Attribute 'name' should be 'b'"
    fix? := some ⟨.possible, some "name: b"⟩ }

/-- A finding that the same file is in order otherwise. -/
def presentPackage : Finding :=
  { problem "/repo/b/package.json" with
    valid := true
    message? := some "Required file found" }

/-- A resource with a problem that can be fixed and a check that is successful comes behind another
with a problem, and both problems are counted. -/
theorem text_accounts_mixed :
    let findings := [misnamedPackage, presentPackage, problem "/repo/b/README.md"]
    let lines := reportLines ⟨true, "/repo/"⟩ 0 findings
    (∀ finding ∈ findings, OnOneLine finding) ∧
      (lines.filterMap Line.error?).Perm [misnamedPackage, problem "/repo/b/README.md"] ∧
      (lines.filterMap Line.success?).Perm [presentPackage] ∧
      "/repo/b/package.json" ∈ lines.filterMap Line.heading? ∧
      lines.getLast? = some (.problems 2 0 1) := by
  have hlines : ∀ finding ∈ [misnamedPackage, presentPackage, problem "/repo/b/README.md"],
      OnOneLine finding := by decide
  obtain ⟨-, herrors, hsuccesses, -, -, hheadings, -, hlast, -⟩ :=
    text_accounts hlines ⟨true, "/repo/"⟩ 0
  refine ⟨hlines, herrors, hsuccesses, (hheadings _).mpr (by decide), hlast.trans ?_⟩
  rw [herrors.length_eq, herrors.countP_eq]
  decide

end Report

end Conventions
