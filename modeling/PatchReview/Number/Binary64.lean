/-
Binary64 numbers.

A number with a fraction or an exponent is kept as the binary64 number nearest to it,
in exact arithmetic: a significand below `2 ^ 53` times a power of two.  A tie goes to
the even significand.  Beyond the largest finite number lies infinity.
-/

namespace PatchReview

/-- A binary64 number. -/
inductive Binary64
  /-- `significand * 2 ^ exponent`; a zero keeps its sign. -/
  | finite (negative : Bool) (significand : Nat) (exponent : Int)
  /-- An infinity. -/
  | infinite (negative : Bool)
  /-- No number at all. -/
  | notANumber
deriving DecidableEq, Repr

namespace Binary64

/-- Significands have at most so many bits. -/
def precision : Nat := 53

/-- The exponent of the smallest numbers. -/
def leastExponent : Int := -1074

/-- The exponent of the largest numbers. -/
def greatestExponent : Int := 971

/-- Whether the number is zero, of either sign. -/
def isZero : Binary64 → Bool
  | finite _ significand _ => significand == 0
  | _ => false

/-- The quotient of two natural numbers rounded to the nearest, a tie to the even one. -/
def roundQuotient (numerator denominator : Nat) : Nat :=
  let floor := numerator / denominator
  let twice := 2 * (numerator % denominator)
  if twice < denominator then floor
  else if denominator < twice then floor + 1
  else if floor % 2 == 0 then floor else floor + 1

/-- `numerator / denominator / 2 ^ exponent`, rounded. -/
def roundScaled (numerator denominator : Nat) (exponent : Int) : Nat :=
  roundQuotient (numerator * Nat.pow 2 (-exponent).toNat) (denominator * Nat.pow 2 exponent.toNat)

/-- The exponent that gives the quotient of two positive numbers a significand of full
precision. -/
def exponentFor (numerator denominator : Nat) : Int :=
  let guess := (Nat.log2 numerator : Int) - (Nat.log2 denominator : Int)
  let below : Bool :=
    numerator * Nat.pow 2 (-guess).toNat < denominator * Nat.pow 2 guess.toNat
  (if below then guess - 1 else guess) - (precision - 1 : Nat)

/-- The binary64 number nearest to a positive quotient. -/
def ofQuotient (negative : Bool) (numerator denominator : Nat) : Binary64 :=
  let exponent := max (exponentFor numerator denominator) leastExponent
  let significand := roundScaled numerator denominator exponent
  let (significand, exponent) :=
    if significand == Nat.pow 2 precision then (Nat.pow 2 (precision - 1), exponent + 1)
    else (significand, exponent)
  if exponent > greatestExponent then infinite negative
  else finite negative significand exponent

/-- The binary64 number nearest to `digits * 10 ^ power`.  A power far outside the range of the
format decides by itself: the number of digits bounds the rest. -/
def ofDecimal (negative : Bool) (digits : Nat) (digitCount : Nat) (power : Int) : Binary64 :=
  if digits == 0 then finite negative 0 leastExponent
  else if power > 400 then infinite negative
  else if power + digitCount < -400 then finite negative 0 leastExponent
  else ofQuotient negative (digits * Nat.pow 10 power.toNat) (Nat.pow 10 (-power).toNat)

end Binary64

end PatchReview
