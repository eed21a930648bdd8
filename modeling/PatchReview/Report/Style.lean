/-
Styled text.

A style is written in terminal escapes: the color, then whether the text is bold, then
the text itself and a reset.  Output that goes to no terminal has its escapes stripped,
those that came with the text included.
-/
import PatchReview.Number.Decimal

namespace PatchReview

/-- A color of the terminal. -/
inductive Color
  | red
  | green
  | yellow
  | cyan
  | white
deriving DecidableEq, Repr

/-- How a text is set off. -/
structure Style where
  color : Option Color := none
  bold : Bool := false
deriving DecidableEq, Repr

namespace Color

/-- The number of a color. -/
def code : Color → Nat
  | red => 31
  | green => 32
  | yellow => 33
  | cyan => 36
  | white => 37

end Color

namespace Style

/-- What introduces an escape. -/
def escapeMark : Text := "\x1b["

/-- An escape of one number. -/
def escape (n : Nat) : Text := escapeMark ++ Decimal.ofNat n ++ "m"

/-- The escapes that switch a style on. -/
def opening (style : Style) : Text :=
  (match style.color with
    | none => []
    | some color => escape color.code)
  ++ if style.bold then escape 1 else []

/-- A text in a style. -/
def apply (style : Style) (t : Text) : Text := style.opening ++ t ++ escape 0

/-- What may stand between the mark and the letter of an escape. -/
def isParameter (c : CodePoint) : Bool := c.isAsciiDigit || c == ';' || c == '?'

/-- What follows the escape at the beginning of a text, if there is one. -/
def afterEscape? (t : Text) : Option Text :=
  match Text.dropStart? escapeMark t with
  | none => none
  | some rest =>
    match rest.dropWhile isParameter with
    | [] => none
    | c :: rest => if c.isAsciiLetter then some rest else none

/-- Strips the escapes from a text, looking at no more than `fuel` places. -/
def stripWithin : (fuel : Nat) → Text → Text
  | 0, t => t
  | _ + 1, [] => []
  | fuel + 1, c :: t =>
    match afterEscape? (c :: t) with
    | some rest => stripWithin fuel rest
    | none => c :: stripWithin fuel t

/-- Strips the escapes from a text. -/
def strip (t : Text) : Text := stripWithin t.length t

end Style

end PatchReview
