/-
Applying the boundaries to the added imports.

Every added line that imports a module is held against the boundary rules, section by
section as the diff has them.  The finding of a boundary rule is reported under
`boundaries.` and its name; if the rules document has a rule of that id, the last one
of them sets the area and the severity.
-/
import PatchReview.Boundary.Basic
import PatchReview.Boundary.Import
import PatchReview.Diff.Basic
import PatchReview.Finding.Evidence
import PatchReview.Finding.Fingerprint
import PatchReview.Rule.Basic

namespace PatchReview

namespace BoundaryRule

/-- The id under which the findings of a boundary rule are reported. -/
def findingRule (boundary : BoundaryRule) : Text := "boundaries." ++ boundary.name

/-- The area where no rule names one. -/
def defaultArea : Text := "architecture"

/-- The area and the severity of the findings of a boundary rule. -/
def grading (boundary : BoundaryRule) (rules : Option RuleSet) : Text × Severity :=
  match rules.bind fun set => set.find? boundary.findingRule with
  | none => (defaultArea, .major)
  | some rule => (if rule.area.isEmpty then defaultArea else rule.area, rule.severity)

/-- What is said of a broken boundary rule. -/
def reason (boundary : BoundaryRule) : Text :=
  match boundary.explanation with
  | none | some [] => "Import violates module boundaries policy."
  | some t => t

/-- The finding on a line that imports what a boundary rule forbids. -/
def finding (boundary : BoundaryRule) (rules : Option RuleSet) (path specifier : Text)
    (line : AddedLine) : Except NumeralError Finding := do
  let locator ← Finding.lineLocator line.number
  let quoted := [Import.backquote] ++ specifier ++ [Import.backquote]
  let evidence := "[" ++ locator ++ "] Forbidden import per boundaries: " ++ quoted
  let (area, severity) := boundary.grading rules
  return Finding.make boundary.findingRule area severity.name path locator [evidence]
    boundary.reason "Import through an allowed adapter/port or public API."

end BoundaryRule

namespace Boundaries

/-- The findings on a line. -/
def findingsOn (boundaries : Boundaries) (rules : Option RuleSet) (path : Text) (line : AddedLine) :
    Except NumeralError (List Finding) :=
  match Import.specifier? line.text with
  | none => .ok []
  | some specifier =>
    (boundaries.broken (Text.slashed path) specifier).mapM fun boundary =>
      boundary.finding rules path specifier line

/-- The findings in one section of a diff. -/
def findingsIn (boundaries : Boundaries) (rules : Option RuleSet) (file : FileDiff) :
    Except NumeralError (List Finding) := do
  let findings ← file.addedLines.mapM (boundaries.findingsOn rules file.path)
  return findings.flatten

/-- The findings in a diff. -/
def findings (boundaries : Boundaries) (rules : Option RuleSet) (files : List FileDiff) :
    Except NumeralError (List Finding) := do
  let findings ← files.mapM (boundaries.findingsIn rules)
  return findings.flatten

end Boundaries

end PatchReview
