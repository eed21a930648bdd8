/-
Diffs as tools write them.

A written diff is a list of sections.  A kept section has a few lines of its own, the
header of the file, and hunks; a deleted one names no file on the new side, and its
hunks have lines of the old side only.  The conditions under which the lines of a
section cannot be taken for something else are fields of these structures, so what can
be written down here can be read back: `Proofs/Diff/Rendering.lean` shows it.

The lemmas behind the definitions read a single hunk header.  Its numerals may be of any
script that counts in tens, with leading zeros, as long as they stay within the limit
for numerals; their values are defined by place value and not by the reader.
-/
import Mathlib.Data.Nat.Digits.Defs
import PatchReview.Proofs.Diff.Steps

namespace PatchReview

open CodePoint (lineFeed carriageReturn)

namespace Written

/-- A text that can stand within a line: nothing in it ends one. -/
def Plain (t : Text) : Prop := lineFeed ∉ t ∧ carriageReturn ∉ t

/-- A numeral that is short enough to be read. -/
structure Numeral where
  digits : Text
  nonempty : digits ≠ []
  decimal : ∀ c ∈ digits, c.isDigit = true
  withinLimit : digits.length ≤ Decimal.digitLimit

/-- The number by place value; the last digit counts ones. -/
def Numeral.value (n : Numeral) : Nat :=
  Nat.ofDigits 10 (n.digits.filterMap CodePoint.digitValue?).reverse

/-- A count as it stands behind a start; one that is left out is not written. -/
def counted : Option Numeral → Text
  | none => []
  | some n => "," ++ n.digits

/-- The number of a count, which is zero when it is left out. -/
def countValue (count : Option Numeral) : Nat := count.elim 0 Numeral.value

/-- The header of a hunk. -/
structure HunkHeader where
  oldStart : Numeral
  oldCount : Option Numeral
  newStart : Numeral
  newCount : Option Numeral
  /-- What follows the numerals, a line of the code around the hunk as a rule. -/
  tail : Text
  plain : Plain tail

/-- The header as a line. -/
def HunkHeader.line (h : HunkHeader) : Text :=
  "@@ -" ++ h.oldStart.digits ++ counted h.oldCount ++ " +" ++ h.newStart.digits
    ++ counted h.newCount ++ " @@" ++ h.tail

/-- A line of the body of a hunk. -/
inductive BodyLine
  /-- A line of the new side alone. -/
  | added (text : Text)
  /-- A line of the old side alone. -/
  | removed (text : Text)
  /-- A line of both sides. -/
  | kept (text : Text)
  /-- A remark on the line before, as that it has no line feed. -/
  | note (text : Text)
deriving DecidableEq

namespace BodyLine

/-- What a line of a body says, without its mark. -/
def text : BodyLine → Text
  | added t | removed t | kept t | note t => t

/-- The mark of a line. -/
def mark : BodyLine → Char
  | added _ => '+'
  | removed _ => '-'
  | kept _ => ' '
  | note _ => '\\'

/-- A line of a body as it is written. -/
def line (l : BodyLine) : Text := CodePoint.ofChar l.mark :: l.text

/-- Whether a line stands in the new file. -/
def onNewSide : BodyLine → Bool
  | added _ | kept _ => true
  | removed _ | note _ => false

/-- The text of a line that is added. -/
def addedText? : BodyLine → Option Text
  | added t => some t
  | _ => none

end BodyLine

/-- A hunk.  Its body may not have what looks like a file header, nor what looks like the two sides
of a section: a line that starts with `--- ` and right behind it one that starts with `+++ `. -/
structure HunkText where
  header : HunkHeader
  body : List BodyLine
  plain : ∀ l ∈ body, Plain l.text
  noFile : ∀ l ∈ body, l.line.startsWith FileDiff.headerMark = false
  noSides : body.IsChain fun a b =>
    a.line.startsWith FileDiff.oldSideMark = true → b.line.startsWith FileDiff.newSideMark = false

namespace HunkText

/-- The lines of a hunk. -/
def lines (h : HunkText) : List Text := h.header.line :: h.body.map BodyLine.line

/-- The lines of the new file that a hunk shows. -/
def newSide (h : HunkText) : List BodyLine := h.body.filter BodyLine.onNewSide

/-- The texts of the added lines. -/
def addedTexts (h : HunkText) : List Text := h.body.filterMap BodyLine.addedText?

/-- A hunk stands in a file, given by the texts of its lines, if its lines of the new side are the
lines of the file from the start that the header names. -/
def StandsIn (h : HunkText) (file : Nat → Option Text) : Prop :=
  ∀ i l, h.newSide[i]? = some l → file (h.header.newStart.value + i) = some l.text

end HunkText

/-- Lines in front of a header: nothing that starts like an added line or like a hunk. -/
def Preamble (ls : List Text) : Prop :=
  ∀ l ∈ ls, Plain l ∧ l.startsWith "+" = false ∧ l.startsWith "@@ -" = false

/-- A section that has a file on the new side. -/
structure FileText where
  preamble : List Text
  path : Text
  hunks : List HunkText
  quiet : Preamble preamble
  plain : Plain path
  nonempty : path ≠ []
  noTab : CodePoint.ofChar '\t' ∉ path
  trimmed : path.trim = path

/-- The lines of a kept section. -/
def FileText.lines (f : FileText) : List Text :=
  f.preamble ++ (FileDiff.headerMark ++ f.path) :: f.hunks.flatMap HunkText.lines

/-- A section whose file is gone on the new side. -/
structure DeletedText where
  preamble : List Text
  /-- What the header of the old side names. -/
  oldSide : Text
  hunks : List HunkText
  quiet : Preamble preamble
  plain : Plain oldSide
  onlyOld : ∀ h ∈ hunks, h.newSide = []

/-- The lines of a deleted section. -/
def DeletedText.lines (f : DeletedText) : List Text :=
  f.preamble ++ (FileDiff.oldSideMark ++ f.oldSide) :: ("+++ /dev/null" : Text)
    :: f.hunks.flatMap HunkText.lines

/-- A section of a diff. -/
inductive Section
  | kept (file : FileText)
  | deleted (file : DeletedText)

namespace Section

/-- The lines of a section. -/
def lines : Section → List Text
  | kept file => file.lines
  | deleted file => file.lines

/-- The section if it is kept. -/
def kept? : Section → Option FileText
  | kept file => some file
  | deleted _ => none

end Section

/-- A diff as it is written. -/
def render (sections : List Section) : Text :=
  Text.join [lineFeed] (sections.flatMap Section.lines)

/-- A diff of a kept section, whose removed line looks like the header of an old side, and a deleted
one. -/
example : ∃ file gone, render [.kept file, .deleted gone] =
    "+++ b/a\n@@ -1 +1 @@\n x\n--- y\n+z\n--- b\n+++ /dev/null\n@@ -1 +1 @@\n-w" := by
  let one : Numeral := ⟨"1", by decide, by decide, by decide⟩
  let header : HunkHeader := ⟨one, none, one, none, [], ⟨by decide, by decide⟩⟩
  let changed : HunkText :=
    { header, body := [.kept "x", .removed "-- y", .added "z"], plain := by unfold Plain; decide
      noFile := by decide, noSides := by decide }
  let emptied : HunkText :=
    { header, body := [.removed "w"], plain := by unfold Plain; decide
      noFile := by decide, noSides := by decide }
  exact ⟨⟨[], "a", [changed], by simp [Preamble], ⟨by decide, by decide⟩, by decide, by decide, rfl⟩,
    ⟨[], "b", [emptied], by simp [Preamble], ⟨by decide, by decide⟩, by decide⟩, by decide⟩

/-! ### What a hunk and a file are to be read as -/

/-- The hunk that is read where this one is written. -/
structure HunkText.ReadAs (w : HunkText) (h : Hunk) : Prop where
  header : h.header = w.header.line
  oldStart : h.oldStart = w.header.oldStart.value
  oldLines : h.oldLines = countValue w.header.oldCount
  newStart : h.newStart = w.header.newStart.value
  newLines : h.newLines = countValue w.header.newCount
  /-- The added lines are there, in order, and no others. -/
  texts : h.added.map AddedLine.text = w.addedTexts
  /-- In every file that the hunk stands in, an added line has the number that it is reported
  under. -/
  placed : ∀ file, w.StandsIn file → ∀ l ∈ h.added, ∃ n : Nat, l.number = n ∧ file n = some l.text

/-- The file that is read where this section is written. -/
structure FileText.ReadAs (w : FileText) (f : FileDiff) : Prop where
  path : f.path = w.path
  hunks : List.Forall₂ HunkText.ReadAs w.hunks f.hunks

end Written

end PatchReview
