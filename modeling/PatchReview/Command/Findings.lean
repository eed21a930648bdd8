/-
The commands that work on findings: `normalize` and `compare`.
-/
import PatchReview.Command.Basic
import PatchReview.Command.Environment
import PatchReview.Diff.Assembly
import PatchReview.Report.Human
import PatchReview.Review.Gate

namespace PatchReview

namespace Environment

/-- Reads findings and normalizes them. -/
def findings (env : Environment) (path : Path) : Except CommandError (List Finding) := do
  let raw ← env.document "Findings" path
  (Finding.normalize raw).mapError .ofNumeral

end Environment

namespace NormalizeArguments

variable [Host]

/-- The findings that a diff and a policy let pass. -/
def gated (raw : Json) (env : Environment) (diffFile rules : Path) :
    Except CommandError (List Finding) := do
  let diff ← env.diffText diffFile
  let files ← (FileDiff.parse diff).mapError .ofNumeral
  let rules ← env.document "Rules" rules
  (Gate.kept raw files rules).mapError .review

/-- The findings; a diff and a policy have to be given together. -/
def findings (a : NormalizeArguments) (env : Environment) : Except CommandError (List Finding) := do
  let raw ← env.document "Findings" a.input
  match a.diffFile, a.rules with
  | some diffFile, some rules => gated raw env diffFile rules
  | none, none => (Finding.normalize raw).mapError .ofNumeral
  | _, _ => throw (.badValue "Provide both --diff-file and --rules to gate findings.")

/-- The reply. -/
def reply (a : NormalizeArguments) (env : Environment) : Except CommandError Reply := do
  let findings ← a.findings env
  return { text := ← (Finding.listJson findings).printed .spaced }

end NormalizeArguments

namespace CompareArguments

/-- The findings of the previous run; when there was none there are none. -/
def previousFindings (a : CompareArguments) (env : Environment) :
    Except CommandError (List Finding) :=
  if env.files.contains env.workingFolder.parts a.previous then env.findings a.previous else .ok []

/-- The reply. -/
def reply (a : CompareArguments) (env : Environment) : Except CommandError Reply := do
  let format ← OutputFormat.ofArgument a.format
  let current ← env.findings a.current
  let previous ← a.previousFindings env
  let comparison := Comparison.ofRuns current previous
  match format with
  | .json => return { text := ← comparison.toJson.printed .spaced }
  | .human => return { text := comparison.human }

end CompareArguments

end PatchReview
