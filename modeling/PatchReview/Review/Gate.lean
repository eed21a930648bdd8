/-
The gate for findings from elsewhere.

A finding passes if the policy declares its rule, the diff has its file, the exemptions
and signals of a rule that requires a signal let it pass, and its first line of evidence
quotes the beginning of an added line of the file.
-/
import PatchReview.Diff.Merge
import PatchReview.Finding.Normalize
import PatchReview.Rule.Constraint
import PatchReview.Signal
import PatchReview.Text.Blank

namespace PatchReview

namespace Gate

variable [Host]

/-- So many code points at the beginning of a line have to be quoted. -/
def quotedLength : Nat := 20

/-- A line of evidence without the tag in square brackets at its beginning and the white space behind
the tag.  Empty brackets are no tag. -/
def untagged (evidence : Text) : Text :=
  match Text.dropStart? "[" evidence with
  | none => evidence
  | some rest =>
    let tag := Text.before ']' rest
    if tag.isEmpty then evidence
    else
      match rest.drop tag.length with
      | [] => evidence
      | _ :: behind => Text.trimStart behind

/-- Whether a line of evidence quotes an added line that is not blank. -/
def quotes (evidence : Text) (added : List Text) : Bool :=
  added.any fun line =>
    !(Text.trim line).isEmpty && Text.contains (line.take quotedLength) (untagged evidence)

/-- Whether the policy of a rule lets findings on a file pass. -/
def policyAdmits (rule : RuleConstraint) (added : List Text) : Except ReviewError Bool := do
  if rule.trigger.requireSignal then
    if ← Signal.anyMatches added rule.trigger.exempt then return false
    Signal.anyMatches added rule.trigger.signals
  else return true

/-- Whether the evidence of a finding is in order: a finding may have none. -/
def evidenceAdmits (f : Finding) (added : List Text) : Bool :=
  match f.evidence with
  | [] => true
  | first :: _ => quotes first added

/-- Whether a finding passes. -/
def admits (rules : List RuleConstraint) (entries : List PathLines) (f : Finding) :
    Except ReviewError Bool :=
  match RuleConstraint.find? rules f.rule, PathLines.find? f.file entries with
  | some rule, some entry => do
    let admitted ← policyAdmits rule entry.texts
    return admitted && evidenceAdmits f entry.texts
  | _, _ => .ok false

/-- The findings that pass, in order. -/
def filter (rules : List RuleConstraint) (entries : List PathLines) (findings : List Finding) :
    Except ReviewError (List Finding) :=
  findings.filterM (admits rules entries)

/-- The findings that a value describes and that pass. -/
def kept (raw : Json) (files : List FileDiff) (rules : Json) : Except ReviewError (List Finding) := do
  let rules ← (RuleSet.ofJson rules).mapError .numeral
  let findings ← (Finding.normalize raw).mapError .numeral
  filter (RuleConstraint.ofRules rules) (FileDiff.addedByFile files) findings

end Gate

end PatchReview
