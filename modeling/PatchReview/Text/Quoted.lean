/-
Quoted texts.

A text is quoted in single quotes, or in double quotes if it has a single quote and no
double one.  The quote itself and the backslash stand behind a backslash, and what has
no visible mark of its own is written as an escape.
-/
import PatchReview.Text.Hex
import PatchReview.Text.Printable

namespace PatchReview

namespace Text

/-- A code point inside quotes. -/
def quoteOne (quote c : CodePoint) : Text :=
  if c = quote ∨ c = '\\' then ['\\', c]
  else if c = '\t' then "\\t"
  else if c = '\n' then "\\n"
  else if c = '\r' then "\\r"
  else if c.isPrintable then [c]
  else if c.toNat < 0x100 then "\\x" ++ hexDigits c.toNat 2
  else if c.toNat < 0x10000 then "\\u" ++ hexDigits c.toNat 4
  else "\\U" ++ hexDigits c.toNat 8

/-- A text in quotes. -/
def quoted (t : Text) : Text :=
  let single : CodePoint := '\''
  let double : CodePoint := '"'
  let quote := if t.elem single && !t.elem double then double else single
  [quote] ++ t.flatMap (quoteOne quote) ++ [quote]

end Text

end PatchReview
