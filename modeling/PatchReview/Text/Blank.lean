/-
White space.

These are the code points that separate words: the controls from tab to carriage
return, the four information separators, next line, and the spaces and separators of
the Unicode space categories.  The zero-width space and the byte order mark are not
among them.
-/
import PatchReview.Text.CodePoint
import PatchReview.Text.Ranges

namespace PatchReview

namespace CodePoint

/-- The ranges of white space. -/
def blanks : Ranges :=
  [(9, 13), (28, 32), (133, 133), (160, 160), (5760, 5760), (8192, 8202), (8232, 8233),
   (8239, 8239), (8287, 8287), (12288, 12288)]

/-- White space, as trimming and `\s` understand it. -/
def isBlank (c : CodePoint) : Bool := blanks.holds c.toNat

/-- The white space of ASCII: the controls from tab to carriage return, and the space. -/
def isAsciiBlank (c : CodePoint) : Bool := (9 ≤ c.toNat && c.toNat ≤ 13) || c.toNat == 32

end CodePoint

namespace Text

/-- A text without the white space at its start. -/
def trimStart (t : Text) : Text := t.dropWhile CodePoint.isBlank

/-- A text without the white space at its end. -/
def trimEnd (t : Text) : Text := dropEndWhile CodePoint.isBlank t

/-- A text without the white space at its two ends. -/
def trim (t : Text) : Text := trimEnd (trimStart t)

/-- A text of nothing but white space. -/
def isBlank (t : Text) : Bool := t.all CodePoint.isBlank

end Text

end PatchReview
