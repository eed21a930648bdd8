/-
The shortest decimal that reads back.

Every decimal in the rounding interval of a binary64 number reads back as that number.
Among the decimals there the ones with the fewest digits are taken, and of these the
nearest to the number.  For each count of digits only the two neighbours of the number
on that decimal grid can qualify, so trying the counts from one upwards finds it;
seventeen digits always suffice.
-/
import PatchReview.Number.Binary64
import PatchReview.Number.Decimal

namespace PatchReview

/-- The digits of a decimal, read as a whole number, and the power of ten that its leading digit
stands below: `0.digits * 10 ^ point`. -/
structure ShortDecimal where
  digits : Nat
  point : Int
deriving DecidableEq, Repr

namespace Binary64

/-- Four times the number and the ends of its rounding interval, all over one power of two. -/
structure Interval where
  low : Nat
  value : Nat
  high : Nat
  exponent : Int
  /-- The ends themselves round to the number when its significand is even. -/
  closed : Bool

/-- The decimals that round to `significand * 2 ^ exponent`.  Below a power of two the neighbour is
only half as far away. -/
def intervalOf (significand : Nat) (exponent : Int) : Interval :=
  let narrow := significand == Nat.pow 2 (precision - 1) && exponent > leastExponent
  { low := 4 * significand - (if narrow then 1 else 2)
    value := 4 * significand
    high := 4 * significand + 2
    exponent := exponent - 2
    closed := significand % 2 == 0 }

/-- The power of ten just above a positive `value * 2 ^ exponent`, searched upwards. -/
def pointFrom (value : Nat) (exponent point : Int) : Nat → Int
  | 0 => point
  | tries + 1 =>
    if Nat.pow 10 point.toNat * Nat.pow 2 (-exponent).toNat
        ≤ value * Nat.pow 2 exponent.toNat * Nat.pow 10 (-point).toNat
    then pointFrom value exponent (point + 1) tries
    else point

/-- The least power of ten above a positive `value * 2 ^ exponent`. -/
def pointOf (value : Nat) (exponent : Int) : Int :=
  let bits := (Nat.log2 value : Int) + exponent
  pointFrom value exponent (Int.fdiv (bits * 30103) 100000) 4

/-- The decimal with `count` digits that lies in the interval and nearest to the number, if there is
one; a tie goes to the even digit. -/
def withDigits? (i : Interval) (point : Int) (count : Nat) : Option Nat :=
  let power := point - count
  let unit := Nat.pow 10 power.toNat * Nat.pow 2 (-i.exponent).toNat
  let scale := Nat.pow 2 i.exponent.toNat * Nat.pow 10 (-power).toNat
  let value := i.value * scale
  let inside (n : Nat) : Bool :=
    if i.closed then i.low * scale ≤ n * unit && n * unit ≤ i.high * scale
    else i.low * scale < n * unit && n * unit < i.high * scale
  let below := value / unit
  let above := below + 1
  let nearBelow := 2 * (value % unit) < unit || (2 * (value % unit) == unit && below % 2 == 0)
  match below != 0 && inside below, inside above with
  | true, true => some (if nearBelow then below else above)
  | true, false => some below
  | false, true => some above
  | false, false => none

/-- The shortest decimal of a positive number. -/
def shortest (significand : Nat) (exponent : Int) : ShortDecimal :=
  let i := intervalOf significand exponent
  let point := pointOf i.value i.exponent
  let counts := (List.range 17).map (· + 1)
  match counts.findSome? fun count => (withDigits? i point count).map (count, ·) with
  | none => ⟨0, 0⟩
  | some (count, digits) =>
    if digits == Nat.pow 10 count then ⟨1, point + 1⟩ else ⟨digits, point⟩

/-- Writes the decimals whose point lies from `-3` to `16` positionally, with at least one digit
after the point, and the others with an exponent of at least two digits. -/
def positional (digits : Text) (point : Int) : Text :=
  let nought : CodePoint := '0'
  if point ≤ 0 then "0." ++ List.replicate (-point).toNat nought ++ digits
  else
    let whole := point.toNat
    if digits.length ≤ whole then
      digits ++ List.replicate (whole - digits.length) nought ++ ".0"
    else digits.take whole ++ "." ++ digits.drop whole

/-- A decimal with one digit before the point and an exponent. -/
def scientific (digits : Text) (point : Int) : Text :=
  let exponent := point - 1
  let size := Decimal.ofNat exponent.natAbs
  let padded := if size.length < 2 then "0" ++ size else size
  let mark : Text := if exponent < 0 then "e-" else "e+"
  let fraction : Text := if digits.length ≤ 1 then [] else "." ++ digits.drop 1
  digits.take 1 ++ fraction ++ mark ++ padded

/-- The text of a positive number. -/
def writePositive (significand : Nat) (exponent : Int) : Text :=
  let short := shortest significand exponent
  let digits := Decimal.ofNat short.digits
  if -4 < short.point ∧ short.point ≤ 16 then positional digits short.point
  else scientific digits short.point

/-- The text of a number: the shortest decimal that reads back. -/
def write : Binary64 → Text
  | finite negative significand exponent =>
    let size : Text := if significand == 0 then "0.0" else writePositive significand exponent
    if negative then "-" ++ size else size
  | infinite negative => if negative then "-inf" else "inf"
  | notANumber => "nan"

end Binary64

end PatchReview
