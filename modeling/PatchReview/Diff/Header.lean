/-
Header lines of a diff.

`+++ b/PATH` opens a file and `@@ -a,b +c,d @@` opens a hunk, where the two counts may
be left out.  A path ends at the first tab, where some tools put a time stamp, and
white space around it is dropped.
-/
import PatchReview.Diff.Basic
import PatchReview.Number.Decimal
import PatchReview.Text.Blank

namespace PatchReview

namespace FileDiff

/-- What a file header starts with. -/
def headerMark : Text := "+++ b/"

/-- What a line starts with that names the new side, be it a file under `b/` or not. -/
def newSideMark : Text := "+++ "

/-- What a line starts with that names the old side. -/
def oldSideMark : Text := "--- "

/-- The target of a file header: all that follows the mark on the line, and at least one code
point. -/
def headerTarget? (line : Text) : Option Text :=
  match Text.dropStart? headerMark line with
  | none => none
  | some rest =>
    let target := Text.before CodePoint.lineFeed rest
    let after := rest.drop target.length
    if target.isEmpty then none
    else if after.isEmpty || after == [CodePoint.lineFeed] then some target
    else none

/-- The path that a header target names. -/
def pathOfTarget (target : Text) : Text := Text.trim (Text.before '\t' target)

end FileDiff

namespace Hunk

/-- The numerals of a hunk header; a count may be missing. -/
structure Numerals where
  oldStart : Text
  oldCount : Option Text
  newStart : Text
  newCount : Option Text
deriving DecidableEq, Repr

/-- A numeral at the start of a text, and what follows it. -/
def numeral? (t : Text) : Option (Text × Text) :=
  let (digits, rest) := Decimal.span t
  if digits.isEmpty then none else some (digits, rest)

/-- A comma and a numeral, if the text goes on that way. -/
def count (t : Text) : Option Text × Text :=
  match Text.dropStart? "," t with
  | none => (none, t)
  | some rest =>
    match numeral? rest with
    | none => (none, t)
    | some (digits, rest) => (some digits, rest)

/-- The numerals of a line that starts as a hunk header does. -/
def numerals? (line : Text) : Option Numerals := do
  let t ← Text.dropStart? "@@ -" line
  let (oldStart, t) ← numeral? t
  let (oldCount, t) := count t
  let t ← Text.dropStart? " +" t
  let (newStart, t) ← numeral? t
  let (newCount, t) := count t
  let _ ← Text.dropStart? " @@" t
  return ⟨oldStart, oldCount, newStart, newCount⟩

/-- The number of a count, which is zero when it is left out. -/
def readCount : Option Text → Except NumeralError Nat
  | none => .ok 0
  | some digits => Decimal.read digits

/-- The hunk that a line opens, still without added lines. -/
def ofHeader? (line : Text) : Except NumeralError (Option Hunk) :=
  match numerals? line with
  | none => .ok none
  | some n => do
    let oldStart ← Decimal.read n.oldStart
    let oldLines ← readCount n.oldCount
    let newStart ← Decimal.read n.newStart
    let newLines ← readCount n.newCount
    return some { header := line, oldStart, oldLines, newStart, newLines }

end Hunk

end PatchReview
