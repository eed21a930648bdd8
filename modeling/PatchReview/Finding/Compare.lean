/-
Comparing two runs.

Findings are told apart by their fingerprints alone.  A finding is new if the run before
has none of its fingerprint, and gone if the later run has none.
-/
import PatchReview.Finding.Basic

namespace PatchReview

/-- What has changed between two runs. -/
structure Comparison where
  added : List Finding
  removed : List Finding
  unchanged : List Finding
deriving DecidableEq, Repr

namespace Comparison

/-- Whether some findings have one of the same fingerprint. -/
def known (findings : List Finding) (f : Finding) : Bool :=
  findings.any fun g => g.fingerprint == f.fingerprint

/-- What has changed from the previous run to the current one. -/
def ofRuns (current previous : List Finding) : Comparison :=
  { added := current.filter fun f => !known previous f
    removed := previous.filter fun f => !known current f
    unchanged := current.filter (known previous) }

/-- A comparison as it is written. -/
def toJson (c : Comparison) : Json :=
  .object
    [("added", Finding.listJson c.added), ("removed", Finding.listJson c.removed),
      ("unchanged", Finding.listJson c.unchanged)]

end Comparison

end PatchReview
