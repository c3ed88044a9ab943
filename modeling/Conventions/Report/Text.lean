import Conventions.Finding
import Conventions.Text.Blank

/-!
# Reports as text

Findings are grouped by resource. A resource with a problem is always listed, one
that is in order only in a verbose report. The last line counts the problems.
-/

namespace Conventions.Report

/-- The findings of each resource, in ascending order of the resources. -/
def byResource (findings : List Finding) : Entries (List Finding) :=
  findings.foldl (fun groups finding =>
    let group := (Entries.find? finding.resource groups).getD []
    Entries.insertSorted finding.resource (group ++ [finding]) groups) []

/-- How a report is written. -/
structure Style where
  /-- Whether what is in order is listed too. -/
  verbose : Bool
  /-- What is left out wherever it occurs in a text, so that paths below it appear as
  relative ones. -/
  hidden : String

/-- The style that shows paths below a directory as relative to it. -/
def Style.relativeTo (directory : RepoPath) (verbose : Bool) : Style :=
  ⟨verbose, directory.text ++ "/"⟩

/-- A text as it is shown. -/
def Style.shown (style : Style) (text : String) : String := Text.erase style.hidden text

/-- The line for a finding that is in order. -/
def successLine (style : Style) (finding : Finding) : String :=
  "  success " ++ style.shown (finding.message?.getD "") ++ " " ++ finding.rule ++
    if finding.isFixed then " fixed" else ""

/-- What is said about the fix of a problem, behind the rule. -/
def annotation (fix? : Option Fix) : String :=
  match fix?.map Fix.state with
  | some .possible => " fixable"
  | some .notPossible => " fix failed"
  | _ => ""

/-- The line with the message of a fix. It is shown if the report is verbose or the fix
has failed. -/
def fixLines (style : Style) (fix? : Option Fix) : List String :=
  match fix? with
  | some ⟨state, some message⟩ =>
    if style.verbose || state == .notPossible then ["    " ++ style.shown message] else []
  | _ => []

/-- The lines for a problem. -/
def problemLines (style : Style) (finding : Finding) : List String :=
  ("  error " ++ style.shown (finding.message?.getD "") ++ " " ++ finding.rule ++
    annotation finding.fix?) :: fixLines style finding.fix?

/-- The lines for a resource of which everything is in order. -/
def cleanLines (style : Style) (group : String × List Finding) : List String :=
  style.shown group.1 :: (group.2.map (successLine style) ++ [""])

/-- The lines for a resource with problems. -/
def faultyLines (style : Style) (group : String × List Finding) : List String :=
  style.shown group.1 ::
    ((if style.verbose then (group.2.filter (·.valid)).map (successLine style) else []) ++
      (group.2.filter (!·.valid)).flatMap (problemLines style) ++ [""])

/-- What the last line says about fixes: how many were made, or how many could be. -/
def fixSummary (fixed fixable : Nat) : String :=
  if 0 < fixed then " (" ++ toString fixed ++ " fixed)"
  else if 0 < fixable then " (" ++ toString fixable ++ " fixable)"
  else ""

/-- The lines that count. -/
def summaryLines (style : Style) (fixed : Nat) (findings : List Finding) : List String :=
  let problems := findings.filter (!·.valid)
  (if style.verbose then
    ["✓ " ++ toString (findings.countP (·.valid)) ++ " checks successful"] else []) ++
  ["✖ " ++ toString problems.length ++ " problems found" ++
    fixSummary fixed (problems.countP (·.isFixable))]

/-- The lines of a report on findings of which `fixed` were fixed. -/
def textLines (style : Style) (fixed : Nat) (findings : List Finding) : List String :=
  let groups := byResource findings
  let clean := groups.filter fun group => group.2.all (·.valid)
  let faulty := groups.filter fun group => !group.2.all (·.valid)
  [""] ++ (if style.verbose then clean.flatMap (cleanLines style) else []) ++
    faulty.flatMap (faultyLines style) ++ summaryLines style fixed findings

/-- The report as text. -/
def text (style : Style) (fixed : Nat) (findings : List Finding) : String :=
  String.join ((textLines style fixed findings).map (· ++ "\n"))

end Conventions.Report
