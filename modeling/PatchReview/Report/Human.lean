/-
Reports for people.

The findings of a review are listed under their severities, the gravest first, and
within a severity by area and file.  What is left to another reviewer is counted on the
last line.  A comparison lists what is new and what is gone.
-/
import PatchReview.Finding.Compare
import PatchReview.Finding.Group
import PatchReview.Report.Style
import PatchReview.Review.Basic
import PatchReview.Text.Order

namespace PatchReview

namespace Severity

/-- The color of a heading. -/
def color : Severity → Color
  | critical => .red
  | major => .yellow
  | minor => .cyan
  | info => .white

/-- The heading over so many findings. -/
def heading (severity : Severity) (count : Nat) : Text :=
  Style.apply { color := some severity.color, bold := true }
    (Text.asciiUpper severity.name ++ " (" ++ Decimal.ofNat count ++ ")")

end Severity

namespace Finding

/-- Whether a finding may be listed before another one. -/
def listedBefore (f g : Finding) : Bool :=
  if f.area = g.area then Text.notAfter f.file g.file else Text.notAfter f.area g.area

/-- The rule and the place of a finding. -/
def headline (f : Finding) : Text := "[" ++ f.rule ++ "] " ++ f.file ++ ":" ++ f.locator

/-- A line of an entry, left out when there is nothing to say. -/
def detail (label t : Text) : List Text := if t.isEmpty then [] else ["   " ++ label ++ ": " ++ t]

/-- The first line of evidence. -/
def evidenceDetail (f : Finding) : List Text :=
  match f.evidence with
  | [] => []
  | first :: _ => ["   evidence: " ++ first]

/-- The lines of an entry. -/
def entry (f : Finding) : List Text :=
  ["- " ++ f.headline] ++ f.evidenceDetail ++ detail "why" f.why
    ++ detail "follow-up" f.suggestion

/-- The lines for one severity; a severity without findings has none. -/
def severityLines : Severity × List Finding → List Text
  | (_, []) => []
  | (severity, findings) =>
    severity.heading findings.length :: (findings.mergeSort listedBefore).flatMap entry

/-- The lines for all findings. -/
def listLines (findings : List Finding) : List Text :=
  if findings.isEmpty then [Style.apply { color := some .green, bold := true } "No findings."]
  else
    Style.apply { bold := true } (Decimal.ofNat findings.length ++ " finding(s)")
      :: (bySeverity findings).flatMap severityLines

end Finding

namespace LlmTask

/-- The rules that tasks are left for, sorted and each once. -/
def ruleIds (tasks : List LlmTask) : List Text := Text.sortedOnce (tasks.map LlmTask.ruleId)

/-- The line that counts the tasks. -/
def summary (tasks : List LlmTask) : List Text :=
  if tasks.isEmpty then []
  else
    [Decimal.ofNat tasks.length ++ " line(s) deferred to LLM review for: "
      ++ Text.commaList (ruleIds tasks)]

end LlmTask

namespace Review

/-- The lines of a report. -/
def lines (review : Review) : List Text :=
  Finding.listLines review.findings ++ LlmTask.summary review.tasks

/-- A report. -/
def human (review : Review) : Text := Text.join "\n" review.lines

end Review

namespace Comparison

/-- The line that counts. -/
def countLine (c : Comparison) : Text :=
  Style.apply { bold := true }
    ("added: " ++ Decimal.ofNat c.added.length ++ ", removed: " ++ Decimal.ofNat c.removed.length
      ++ ", unchanged: " ++ Decimal.ofNat c.unchanged.length)

/-- The line of a finding that is new or gone. -/
def changeLine (color : Color) (mark : Text) (f : Finding) : Text :=
  Style.apply { color := some color } (mark ++ " " ++ f.headline ++ " (" ++ f.severity ++ ")")

/-- A comparison for people. -/
def human (c : Comparison) : Text :=
  Text.join "\n"
    (c.countLine :: c.added.map (changeLine .red "+") ++ c.removed.map (changeLine .green "-"))

end Comparison

end PatchReview
