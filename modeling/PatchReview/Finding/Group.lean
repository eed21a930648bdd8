/-
Findings by severity.
-/
import PatchReview.Finding.Basic

namespace PatchReview

namespace Finding

/-- The findings that count as a severity. -/
def ofGrade (severity : Severity) (findings : List Finding) : List Finding :=
  findings.filter fun f => f.grade = severity

/-- The findings of each severity, the gravest severity first. -/
def bySeverity (findings : List Finding) : List (Severity × List Finding) :=
  Severity.all.map fun severity => (severity, ofGrade severity findings)

/-- The graver of two severities. -/
def graver (top : Option Severity) (severity : Severity) : Option Severity :=
  match top with
  | none => some severity
  | some t => if t.rank < severity.rank then some severity else some t

/-- The gravest severity of some findings. -/
def gravest (findings : List Finding) : Option Severity :=
  (findings.map grade).foldl graver none

end Finding

end PatchReview
