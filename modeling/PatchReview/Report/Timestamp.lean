/-
Timestamps.

A time is written as a date of the Gregorian calendar and a time of day, both universal,
to the second.  Days are counted in eras of four hundred years that start on the first of
March, so that a leap day is the last day of its year.
-/
import PatchReview.Number.Decimal

namespace PatchReview

/-- A date. -/
structure Date where
  year : Nat
  month : Nat
  day : Nat
deriving DecidableEq, Repr

namespace Date

/-- The days from the first of March of the year zero to the first of January 1970. -/
def daysBefore1970 : Nat := 719468

/-- The days of four hundred years. -/
def daysPerEra : Nat := 146097

/-- The date that comes so many days after the first of January 1970. -/
def ofDays (days : Nat) : Date :=
  let n := days + daysBefore1970
  let era := n / daysPerEra
  let dayOfEra := n % daysPerEra
  let yearOfEra :=
    (dayOfEra - dayOfEra / 1460 + dayOfEra / 36524 - dayOfEra / 146096) / 365
  let dayOfYear := dayOfEra - (365 * yearOfEra + yearOfEra / 4 - yearOfEra / 100)
  let shifted := (5 * dayOfYear + 2) / 153
  let month := if shifted < 10 then shifted + 3 else shifted - 9
  { year := yearOfEra + era * 400 + if month ≤ 2 then 1 else 0
    month
    day := dayOfYear - (153 * shifted + 2) / 5 + 1 }

end Date

namespace Timestamp

/-- A number in at least so many digits. -/
def padded (width n : Nat) : Text :=
  let digits := Decimal.ofNat n
  List.replicate (width - digits.length) (CodePoint.ofChar '0') ++ digits

/-- The time so many seconds after the beginning of 1970. -/
def ofSeconds (seconds : Nat) : Text :=
  let date := Date.ofDays (seconds / 86400)
  let time := seconds % 86400
  padded 4 date.year ++ "-" ++ padded 2 date.month ++ "-" ++ padded 2 date.day ++ "T"
    ++ padded 2 (time / 3600) ++ ":" ++ padded 2 (time / 60 % 60) ++ ":" ++ padded 2 (time % 60)
    ++ "Z"

end Timestamp

end PatchReview
