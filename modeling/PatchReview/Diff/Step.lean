/-
Reading a diff line by line.

The reader is outside every file, in a file before its first hunk, or in a hunk.  It
also keeps the number of the last line of the new file that it has seen, so that an
added line right after `@@ -a +c @@` is numbered `c`.  Each line moves the reader and
may report one event: a file opens, a hunk opens, a line is added.

A line that starts with `+++ ` and names no file under `b/` closes the file, unless it
stands in a hunk: there it is an added line, whose text happens to start with `++ `,
except when the line before it starts with `--- `, as headers do.
-/
import PatchReview.Diff.Header

namespace PatchReview

/-- Where the reader of a diff stands. -/
inductive DiffState
  /-- Outside every file. -/
  | seeking
  /-- In a file, before a hunk. -/
  | inFile
  /-- In a hunk. -/
  | inHunk
deriving DecidableEq, Repr

/-- What a line of a diff brings. -/
inductive DiffEvent
  /-- A file opens. -/
  | file (path : Text)
  /-- A hunk opens. -/
  | hunk (hunk : Hunk)
  /-- A line is added. -/
  | added (line : AddedLine)
deriving DecidableEq, Repr

/-- The effect of one line: where the reader stands after it and what the line brought. -/
structure DiffStep where
  state : DiffState
  cursor : Int
  event : Option DiffEvent := none
deriving DecidableEq, Repr

namespace DiffState

/-- The names of the states. -/
def name : DiffState → String
  | seeking => "seeking"
  | inFile => "in_file"
  | inHunk => "in_hunk"

/-- The state of a name. -/
def ofName? (name : Text) : Option DiffState :=
  [seeking, inFile, inHunk].find? fun state => Text.ofString state.name == name

/-- A line of a hunk's body: an added line is numbered, a kept line counts, all else leaves the
numbering alone. -/
def body (cursor : Int) : Text → DiffStep
  | [] => { state := inHunk, cursor := cursor + 1 }
  | c :: text =>
    if c = '+' then
      { state := inHunk, cursor := cursor + 1, event := some (.added ⟨cursor + 1, text⟩) }
    else if c = ' ' then { state := inHunk, cursor := cursor + 1 }
    else { state := inHunk, cursor }

/-- A line that names no file: it may open a hunk. -/
def advanceInside (state : DiffState) (cursor : Int) (line : Text) :
    Except NumeralError DiffStep :=
  match state with
  | seeking => .ok { state, cursor }
  | _ => do
    match ← Hunk.ofHeader? line with
    | some hunk =>
      return { state := inHunk, cursor := (hunk.newStart : Int) - 1, event := some (.hunk hunk) }
    | none =>
      match state with
      | inHunk => return body cursor line
      | _ => return { state, cursor }

/-- Feeds one line to the reader; `previous` is the line before it. -/
def advance (state : DiffState) (cursor : Int) (line previous : Text) :
    Except NumeralError DiffStep :=
  match FileDiff.headerTarget? line with
  | some target =>
    let path := FileDiff.pathOfTarget target
    if path.isEmpty then .ok { state := seeking, cursor := 0 }
    else .ok { state := inFile, cursor := 0, event := some (.file path) }
  | none =>
    let headerMayStand := state ≠ inHunk ∨ previous.startsWith FileDiff.oldSideMark
    if line.startsWith FileDiff.newSideMark ∧ headerMayStand then
      .ok { state := seeking, cursor := 0 }
    else advanceInside state cursor line

/-- Feeds lines to the reader, each with the line before it. -/
def run (state : DiffState) (cursor : Int) (previous : Text) :
    List Text → Except NumeralError (List DiffStep)
  | [] => .ok []
  | line :: rest => do
    let step ← advance state cursor line previous
    let steps ← run step.state step.cursor line rest
    return step :: steps

end DiffState

end PatchReview
