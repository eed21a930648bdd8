/-
From the steps of the reader to the files of a diff.

The steps are gathered from the last one backwards.  What has been gathered so far
belongs to a hunk that is still to be opened, to a file that is still to be opened, or
to a finished file; a step that opens a hunk or a file takes what belongs to it, and a
step out of every file lets go of what no hunk and no file has taken.
-/
import PatchReview.Diff.Step
import PatchReview.Text.Lines

namespace PatchReview

/-- What the steps after some place in a diff come to. -/
structure Gathered where
  /-- Added lines up to the next opening. -/
  added : List AddedLine := []
  /-- Hunks up to the next file. -/
  hunks : List Hunk := []
  /-- The files after that. -/
  files : List FileDiff := []
deriving DecidableEq, Repr

namespace Gathered

/-- What is left when no file is open any more. -/
def closed (g : Gathered) : Gathered := { files := g.files }

/-- Puts a step in front of what was gathered behind it. -/
def prepend (step : DiffStep) (g : Gathered) : Gathered :=
  match step.event with
  | some (.file path) => { files := { path, hunks := g.hunks } :: g.files }
  | some (.hunk hunk) => { hunks := { hunk with added := g.added } :: g.hunks, files := g.files }
  | some (.added line) => { g with added := line :: g.added }
  | none => if step.state = .seeking then g.closed else g

/-- What a run of steps comes to. -/
def ofSteps (steps : List DiffStep) : Gathered := steps.foldr prepend {}

end Gathered

namespace FileDiff

/-- The files of a diff.  Lines that belong to no file are passed over; the one thing that can go
wrong is a hunk header with a numeral beyond the limit. -/
def parse (diff : Text) : Except NumeralError (List FileDiff) := do
  let steps ← DiffState.run .seeking 0 [] diff.lines
  return (Gathered.ofSteps steps).files

end FileDiff

end PatchReview
