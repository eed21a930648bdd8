/-
Hexadecimal numerals of fixed width.
-/
import PatchReview.Text.CodePoint

namespace PatchReview

namespace Text

/-- The last `width` hexadecimal digits of a number. -/
def hexDigits (n : Nat) : (width : Nat) → Text
  | 0 => []
  | width + 1 => hexDigits (n / 16) width ++ [CodePoint.ofHexDigit (n % 16)]

@[simp] theorem length_hexDigits (n width : Nat) : (hexDigits n width).length = width := by
  induction width generalizing n with
  | zero => rfl
  | succ width ih => simp [hexDigits, ih]

end Text

end PatchReview
