/-
Lines.

A line ends at a line feed, and one carriage return right before the line feed belongs
to the ending.  A carriage return elsewhere is an ordinary code point of its line.
Files that are read as text have had their endings unified first: there a carriage
return ends a line too, alone or before a line feed.
-/
import PatchReview.Text.CodePoint

namespace PatchReview

namespace Text

open CodePoint (lineFeed carriageReturn)

/-- The lines of a text; there is one more than there are line endings. -/
def lines : Text → List Text
  | [] => [[]]
  | c :: t =>
    if c = lineFeed then [] :: lines t
    else if c = carriageReturn ∧ t.head? = some lineFeed then lines t
    else match lines t with
      | [] => [[c]]
      | line :: rest => (c :: line) :: rest

theorem lines_ne_nil (t : Text) : lines t ≠ [] := by
  induction t with
  | nil => simp [lines]
  | cons c t ih =>
    unfold lines
    split
    · simp
    · split
      · exact ih
      · split <;> simp

/-- Writes every line ending as one line feed, a lone carriage return included. -/
def unifyEndings : Text → Text
  | [] => []
  | c :: t =>
    if c = carriageReturn then
      if t.head? = some lineFeed then unifyEndings t else lineFeed :: unifyEndings t
    else c :: unifyEndings t

/-- A text without line feeds is one line. -/
def isSingleLine (t : Text) : Bool := t.all (· != lineFeed)

end Text

end PatchReview
