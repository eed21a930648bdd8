/-
Parsed diffs.

A unified diff is read for its new side: the files it writes, their hunks, and the
lines it adds with their numbers in the new file.
-/
import PatchReview.Text.CodePoint

namespace PatchReview

/-- A line that the diff adds, and its number in the new file. -/
structure AddedLine where
  /-- The number of the line; a hunk that starts at zero numbers its first line zero. -/
  number : Int
  /-- The line without its leading plus. -/
  text : Text
deriving DecidableEq, Repr

/-- A hunk: the numbers of its header and the lines it adds. -/
structure Hunk where
  /-- The header line as it stands in the diff. -/
  header : Text
  /-- Where the hunk starts in the old file. -/
  oldStart : Nat
  /-- How many old lines it spans; zero when the header leaves it out. -/
  oldLines : Nat
  /-- Where the hunk starts in the new file. -/
  newStart : Nat
  /-- How many new lines it spans; zero when the header leaves it out. -/
  newLines : Nat
  /-- The added lines in order. -/
  added : List AddedLine := []
deriving DecidableEq, Repr

/-- One section of a diff: a file on the new side with its hunks. -/
structure FileDiff where
  /-- The path after `b/` in the file header. -/
  path : Text
  /-- The hunks in order. -/
  hunks : List Hunk := []
deriving DecidableEq, Repr

namespace FileDiff

/-- All added lines of a section, hunk after hunk. -/
def addedLines (file : FileDiff) : List AddedLine := file.hunks.flatMap Hunk.added

end FileDiff

end PatchReview
