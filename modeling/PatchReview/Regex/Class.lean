/-
Sets of code points in patterns.

Where the case of letters is ignored, a code point is of a set if one that differs from
it in case alone is.  A member of a set that lies beyond the basic plane is compared
with small letters only, so its capitals do not count there.
-/
import PatchReview.Regex.Basic
import PatchReview.Text.Blank
import PatchReview.Text.Case
import PatchReview.Text.Word

namespace PatchReview

namespace Regex

namespace Kind

/-- Whether a code point is of a kind. -/
def holds (kind : Kind) (asciiOnly : Bool) (c : CodePoint) : Bool :=
  match kind, asciiOnly with
  | digit, false => c.isDigit
  | digit, true => c.isAsciiDigit
  | space, false => c.isBlank
  | space, true => c.isAsciiBlank
  | word, false => c.isWord
  | word, true => c.isAsciiWord

end Kind

namespace Folding

/-- The representative of a code point among those that are the same to a folding. -/
def fold : Folding → CodePoint → CodePoint
  | exact, c => c
  | ascii, c => c.asciiLower
  | unicode, c => c.lower

/-- Whether `d` as a member of a set stands for `c`. -/
def same : Folding → (d c : CodePoint) → Bool
  | exact, d, c => d == c
  | ascii, d, c => d.asciiLower == c.asciiLower
  | unicode, d, c =>
    if d.lower.toNat < 0x10000 then (CodePoint.companions d.lower.toNat).contains c.lower.toNat
    else d == c.lower

/-- The numbers of the code points that are the same as `c`. -/
def variants : Folding → CodePoint → List Nat
  | exact, c => [c.toNat]
  | ascii, c => [c.asciiLower.toNat, c.asciiUpper.toNat]
  | unicode, c => CodePoint.caseVariants c.lower.toNat

end Folding

namespace Member

/-- Whether a code point is meant by a member of a set. -/
def holds (folding : Folding) (c : CodePoint) : Member → Bool
  | one d => folding.same d c
  | range low high =>
    (folding.variants c).any fun n => decide (low.toNat ≤ n) && decide (n ≤ high.toNat)
  | kind k asciiOnly negated => k.holds asciiOnly c != negated

end Member

namespace CharSet

/-- Whether a code point is of a set. -/
def holds (set : CharSet) (c : CodePoint) : Bool :=
  set.members.any (Member.holds set.folding c) != set.negated

/-- The set of all code points. -/
def all : CharSet := ⟨true, [], .exact⟩

/-- The set of all code points but the line feed. -/
def onLine : CharSet := ⟨true, [.one CodePoint.lineFeed], .exact⟩

/-- The set of one code point, or of all others. -/
def single (negated : Bool) (folding : Folding) (c : CodePoint) : CharSet :=
  ⟨negated, [.one (folding.fold c)], folding⟩

end CharSet

end Regex

end PatchReview
