/-
Sorted texts.

Texts are sorted by code point; sorting keeps equal texts in their order.
-/
import PatchReview.Text.CodePoint

namespace PatchReview

namespace Text

/-- The texts in order. -/
def sorted (texts : List Text) : List Text := texts.mergeSort notAfter

/-- The texts in order, each once. -/
def sortedOnce (texts : List Text) : List Text := sorted texts.eraseDups

end Text

end PatchReview
