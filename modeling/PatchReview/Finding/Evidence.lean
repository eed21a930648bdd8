/-
Places and evidence.

A line is located as `L` and its number.  Evidence quotes the line behind its place and
a message, and a long line is cut.
-/
import PatchReview.Finding.Basic
import PatchReview.Number.Decimal

namespace PatchReview

namespace Finding

/-- A quote has at most so many code points. -/
def quoteLimit : Nat := 180

/-- What stands for the rest of a line that was cut. -/
def ellipsis : Text := "…"

/-- A line as it is quoted. -/
def clipped (t : Text) : Text :=
  if t.length ≤ quoteLimit then t else t.take (quoteLimit - 3) ++ ellipsis

/-- The place of a line. -/
def lineLocator (number : Int) : Except NumeralError Text := do
  return "L" ++ (← Decimal.write number)

/-- A line of evidence. -/
def evidenceLine (number : Int) (text message : Text) : Except NumeralError Text := do
  return "[" ++ (← lineLocator number) ++ "] " ++ message ++ ": \"" ++ clipped text ++ "\""

end Finding

end PatchReview
