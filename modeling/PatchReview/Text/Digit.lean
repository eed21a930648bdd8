/-
Decimal digits.

Every script that counts in tens has its ten digits side by side, in order of value.
A decimal digit is therefore known by the zero of its script: it is one of the ten
code points that start there, and its distance from the zero is its value.
-/
import PatchReview.Text.CodePoint

namespace PatchReview

namespace CodePoint

/-- The zeros of the scripts that have decimal digits, in rising order. -/
def zeros : List Nat :=
  [48, 1632, 1776, 1984, 2406, 2534, 2662, 2790, 2918, 3046, 3174, 3302, 3430, 3558, 3664, 3792,
   3872, 4160, 4240, 6112, 6160, 6470, 6608, 6784, 6800, 6992, 7088, 7232, 7248, 42528, 43216,
   43264, 43472, 43504, 43600, 44016, 65296, 66720, 68912, 69734, 69872, 69942, 70096, 70384,
   70736, 70864, 71248, 71360, 71472, 71904, 72016, 72784, 73040, 73120, 92768, 92864, 93008,
   120782, 120792, 120802, 120812, 120822, 123200, 123632, 125264, 130032]

/-- The value of a number as a digit, given the zeros that are left to try. -/
def valueAmong (n : Nat) : List Nat → Option Nat
  | [] => none
  | start :: rest =>
    if n < start then none else if n < start + 10 then some (n - start) else valueAmong n rest

/-- The value of a decimal digit of any script. -/
def digitValue? (c : CodePoint) : Option Nat := valueAmong c.toNat zeros

/-- A decimal digit of any script. -/
def isDigit (c : CodePoint) : Bool := c.digitValue?.isSome

theorem valueAmong_lt {n v : Nat} {zs : List Nat} (h : valueAmong n zs = some v) : v < 10 := by
  induction zs with
  | nil => simp [valueAmong] at h
  | cons start rest ih =>
    unfold valueAmong at h
    split at h
    · simp at h
    · split at h
      · simp only [Option.some.injEq] at h; omega
      · exact ih h

theorem digitValue?_lt {c : CodePoint} {v : Nat} (h : c.digitValue? = some v) : v < 10 :=
  valueAmong_lt h

end CodePoint

end PatchReview
