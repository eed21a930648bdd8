/-
Reviewing a diff.

A review depends on the diff, the policy and the options alone.  The findings of the
rules come first, those of the boundaries behind them.
-/
import PatchReview.Boundary.Load
import PatchReview.Diff.Assembly
import PatchReview.Review.BoundaryPass
import PatchReview.Review.RulePass

namespace PatchReview

namespace Review

variable [Host]

/-- Applies the rules to parsed files. -/
def ofRules (options : ReviewOptions) (rules : Option RuleSet) (files : List FileDiff) :
    Except ReviewError Review :=
  RuleConstraint.applyAll options (FileDiff.addedByFile files) (RuleConstraint.ofRules rules)

/-- Reads a diff. -/
def parsed (diff : Text) : Except ReviewError (List FileDiff) :=
  (FileDiff.parse diff).mapError .numeral

/-- Reviews a diff by the rules of a document alone. -/
def byRules (diff : Text) (rules : Json) (options : ReviewOptions) : Except ReviewError Review := do
  let files ← parsed diff
  let rules ← (RuleSet.ofJson rules).mapError .numeral
  ofRules options rules files

/-- Reviews a diff by a rules document and a boundaries document. -/
def ofDiff (diff : Text) (rules boundaries : Json) (options : ReviewOptions) :
    Except ReviewError Review := do
  let files ← parsed diff
  let rules ← (RuleSet.ofJson rules).mapError .numeral
  let review ← ofRules options rules files
  match ← (Boundaries.ofJson boundaries).mapError .numeral with
  | none => return review
  | some boundaries =>
    let findings ← (boundaries.findings rules files).mapError .numeral
    return { review with findings := review.findings ++ findings }

end Review

end PatchReview
