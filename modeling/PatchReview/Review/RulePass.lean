/-
Applying the rules to the added lines.

A rule looks at the files that have added lines and that its globs admit.  A file with a
line on which an exemption holds is exempt as a whole.  In the other files a rule that
requires a signal reports the lines on which one holds, and any other rule reports every
added line.  A rule of the type `llm` turns every line in its scope into a task, and a
rule of an unknown type does nothing.
-/
import PatchReview.Diff.Merge
import PatchReview.Finding.Evidence
import PatchReview.Finding.Fingerprint
import PatchReview.Glob.Match
import PatchReview.Review.Basic
import PatchReview.Review.Options
import PatchReview.Rule.Constraint
import PatchReview.Signal

namespace PatchReview

namespace RuleConstraint

variable [Host]

/-- Whether a rule looks at a path. -/
def admits (rule : RuleConstraint) (path : Text) : Bool :=
  rule.trigger.fileGlobs.isEmpty || Glob.matchesAny path rule.trigger.fileGlobs

/-- The files that a rule looks at. -/
def scope (rule : RuleConstraint) (entries : List PathLines) : List PathLines :=
  entries.filter fun entry => !entry.lines.isEmpty && rule.admits entry.path

/-- Whether a rule reports only lines on which a signal holds. -/
def needsSignal (rule : RuleConstraint) (options : ReviewOptions) : Bool :=
  rule.trigger.requireSignal || (options.strictSignals && !rule.trigger.signals.isEmpty)

/-- Whether a rule leaves a file alone. -/
def exempts (rule : RuleConstraint) (entry : PathLines) : Except ReviewError Bool :=
  Signal.anyMatches entry.texts rule.trigger.exempt

/-- The area of the findings of a rule. -/
def findingArea (rule : RuleConstraint) : Text :=
  if rule.area.isEmpty then "general" else rule.area

/-- The finding on an added line. -/
def finding (rule : RuleConstraint) (path : Text) (line : AddedLine) :
    Except NumeralError Finding := do
  let evidence ← Finding.evidenceLine line.number line.text "Matched signal"
  let locator ← Finding.lineLocator line.number
  return Finding.make rule.id rule.findingArea rule.severity.name path locator [evidence]
    "Added line matches rule signal and is not exempted."
    "Review and apply the project guideline for this rule."

/-- The added lines that a rule reports in a file that is not exempt.  A file on which no signal
holds is left at once; in the others the signals are held against each line again. -/
def reported (rule : RuleConstraint) (options : ReviewOptions) (entry : PathLines) :
    Except ReviewError (List AddedLine) :=
  if rule.needsSignal options then do
    if ← Signal.anyMatches entry.texts rule.trigger.signals then
      entry.lines.filterM fun line => Signal.lineMatches line.text rule.trigger.signals
    else return []
  else .ok entry.lines

/-- The findings in a file. -/
def findingsIn (rule : RuleConstraint) (options : ReviewOptions) (entry : PathLines) :
    Except ReviewError (List Finding) := do
  if ← rule.exempts entry then return []
  let lines ← rule.reported options entry
  (lines.mapM (rule.finding entry.path)).mapError .numeral

/-- The task that an added line becomes. -/
def task (rule : RuleConstraint) (path : Text) (line : AddedLine) : Except NumeralError LlmTask := do
  return {
    ruleId := rule.id, file := path, locator := ← Finding.lineLocator line.number
    snippet := line.text.take LlmTask.snippetLimit }

/-- The tasks that the lines of a file become. -/
def tasksIn (rule : RuleConstraint) (entry : PathLines) : Except ReviewError (List LlmTask) :=
  (entry.lines.mapM (rule.task entry.path)).mapError .numeral

/-- Applies one rule. -/
def apply (rule : RuleConstraint) (options : ReviewOptions) (entries : List PathLines) :
    Except ReviewError Review := do
  match rule.trigger.kind? with
  | none => return {}
  | some .llm =>
    let tasks ← (rule.scope entries).mapM rule.tasksIn
    return { tasks := tasks.flatten }
  | some _ =>
    let findings ← (rule.scope entries).mapM (rule.findingsIn options)
    return { findings := options.trim findings.flatten }

/-- Applies rules one after another. -/
def applyAll (options : ReviewOptions) (entries : List PathLines) :
    List RuleConstraint → Except ReviewError Review
  | [] => .ok {}
  | rule :: rest => do
    let first ← rule.apply options entries
    let others ← applyAll options entries rest
    return first ++ others

end RuleConstraint

end PatchReview
