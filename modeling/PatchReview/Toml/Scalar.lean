/-
Numbers, dates and times of TOML.

Digits may be grouped by single underscores.  A date has to exist in the calendar, and a
fraction of a second has any number of digits.  Whatever follows the longest such text is
left for the caller to judge.
-/
import PatchReview.Toml.Basic

namespace PatchReview

namespace Toml

/-- Why a text is no TOML: it breaks the grammar somewhere, or a numeral is beyond the limit. -/
inductive ReadError
  | malformed
  | numeral (error : NumeralError)
deriving DecidableEq, Repr

namespace Scalar

/-- The part of `t` that was read when `rest` is left. -/
def consumed (t rest : Text) : Text := t.take (t.length - rest.length)

/-! ### Dates and times -/

/-- A number of exactly `n` digits. -/
def fixedNumber? (n : Nat) (t : Text) : Option (Nat × Text) :=
  let digits := t.take n
  if digits.length = n ∧ digits.all CodePoint.isAsciiDigit then
    some (Decimal.valueOf (digits.filterMap CodePoint.digitValue?), t.drop n)
  else none

/-- A number of exactly `n` digits between two bounds. -/
def boundedNumber? (n low high : Nat) (t : Text) : Option (Nat × Text) := do
  let (value, rest) ← fixedNumber? n t
  if low ≤ value ∧ value ≤ high then some (value, rest) else none

/-- What follows a time of day. -/
def afterTime? (t : Text) : Option Text := do
  let (_, t) ← boundedNumber? 2 0 23 t
  let t ← Text.dropStart? ":" t
  let (_, t) ← boundedNumber? 2 0 59 t
  let t ← Text.dropStart? ":" t
  let (_, t) ← boundedNumber? 2 0 59 t
  match Text.dropStart? "." t with
  | none => some t
  | some fraction =>
    let rest := fraction.dropWhile CodePoint.isAsciiDigit
    if rest.length = fraction.length then some t else some rest

/-- What follows an offset from universal time, in hours and minutes. -/
def afterHours? (t : Text) : Option Text := do
  let (_, t) ← boundedNumber? 2 0 23 t
  let t ← Text.dropStart? ":" t
  let (_, t) ← boundedNumber? 2 0 59 t
  return t

/-- What follows an offset from universal time, which may be missing. -/
def afterOffset (t : Text) : Text :=
  match t with
  | [] => t
  | c :: rest =>
    if c = 'Z' ∨ c = 'z' then rest
    else if c = '+' ∨ c = '-' then (afterHours? rest).getD t
    else t

/-- What follows the time behind a date, which may be missing. -/
def afterTimePart (t : Text) : Text :=
  match t with
  | [] => t
  | c :: rest =>
    if c = 'T' ∨ c = 't' ∨ c = ' ' then
      match afterTime? rest with
      | some rest => afterOffset rest
      | none => t
    else t

/-- Whether a year has a leap day. -/
def isLeap (year : Nat) : Bool := year % 4 == 0 && (year % 100 != 0 || year % 400 == 0)

/-- The number of days of a month. -/
def daysIn (year month : Nat) : Nat :=
  if month = 2 then if isLeap year then 29 else 28
  else if month = 4 ∨ month = 6 ∨ month = 9 ∨ month = 11 then 30
  else 31

/-- A date, whether or not the calendar has it, and what follows it. -/
def date? (t : Text) : Option ((Nat × Nat × Nat) × Text) := do
  let (year, t) ← fixedNumber? 4 t
  let t ← Text.dropStart? "-" t
  let (month, t) ← boundedNumber? 2 1 12 t
  let t ← Text.dropStart? "-" t
  let (day, t) ← boundedNumber? 2 1 31 t
  return ((year, month, day), t)

/-- A date with or without a time, or a time. -/
def dateTime? (t : Text) : Option (Except ReadError (Toml × Text)) :=
  match date? t with
  | some ((year, month, day), rest) =>
    if 0 < year ∧ day ≤ daysIn year month then
      let rest := afterTimePart rest
      some (.ok (.dateTime (consumed t rest), rest))
    else some (.error .malformed)
  | none =>
    match afterTime? t with
    | some rest => some (.ok (.dateTime (consumed t rest), rest))
    | none => none

/-! ### Numbers -/

/-- Digits that go on, in groups divided by single underscores, and the rest; the underscores are
dropped. -/
def grouped (isDigit : CodePoint → Bool) : Text → Text × Text
  | [] => ([], [])
  | c :: t =>
    if isDigit c then
      let (digits, rest) := grouped isDigit t
      (c :: digits, rest)
    else if c = '_' ∧ (t.head?.map isDigit).getD false then grouped isDigit t
    else ([], c :: t)

/-- Digits in groups, of which the first is no underscore. -/
def digits? (isDigit : CodePoint → Bool) (t : Text) : Option (Text × Text) :=
  match t with
  | [] => none
  | c :: _ => if isDigit c then some (grouped isDigit t) else none

/-- The ways to write a whole number in another base: the mark, the base, its digits. -/
def bases : List (Text × Nat) := [("0x", 16), ("0b", 2), ("0o", 8)]

/-- Whether a code point is a digit in a base of up to sixteen. -/
def isDigitOf (base : Nat) (c : CodePoint) : Bool := c.hexValue?.any fun d => d < base

/-- A whole number in another base. -/
def based? (t : Text) : Option (Toml × Text) :=
  bases.findSome? fun (mark, base) => do
    let t ← Text.dropStart? mark t
    let (digits, rest) ← digits? (isDigitOf base) t
    let value := (digits.filterMap CodePoint.hexValue?).foldl (fun n d => n * base + d) 0
    return (.integer value, rest)

/-- The whole part of a decimal number: a zero, or digits that do not start with one. -/
def wholePart? (t : Text) : Option (Text × Text) :=
  match t with
  | [] => none
  | c :: rest => if c = '0' then some ([c], rest) else digits? CodePoint.isAsciiDigit t

/-- What follows a fraction, if there is one. -/
def afterFraction? (t : Text) : Option Text := do
  let rest ← Text.dropStart? "." t
  let (_, rest) ← digits? CodePoint.isAsciiDigit rest
  return rest

/-- A text without the sign at its start. -/
def unsigned (t : Text) : Text :=
  match t with
  | [] => t
  | c :: rest => if c = '+' ∨ c = '-' then rest else t

/-- What follows an exponent, if there is one. -/
def afterExponent? (t : Text) : Option Text :=
  match t with
  | [] => none
  | c :: rest =>
    if c = 'e' ∨ c = 'E' then (digits? CodePoint.isAsciiDigit (unsigned rest)).map Prod.snd else none

/-- What follows a fraction and an exponent, if there is at least one of them. -/
def afterFloatPart? (t : Text) : Option Text :=
  match afterFraction? t with
  | some rest => some ((afterExponent? rest).getD rest)
  | none => afterExponent? t

/-- A whole number of which the digits and what follows them were read. -/
def whole (negative : Bool) (digits rest : Text) : Except ReadError (Toml × Text) :=
  match Decimal.read digits with
  | .error e => .error (.numeral e)
  | .ok n => .ok (.integer (if negative then -(n : Int) else n), rest)

/-- A decimal number. -/
def decimal? (t : Text) : Option (Except ReadError (Toml × Text)) := do
  let (digits, rest) ← wholePart? (unsigned t)
  match afterFloatPart? rest with
  | some rest => some (.ok (.float (consumed t rest), rest))
  | none => some (whole (t.head? == some (CodePoint.ofChar '-')) digits rest)

/-- The floats that are written as words. -/
def words : List Text := ["inf", "nan", "-inf", "+inf", "-nan", "+nan"]

/-- A float that is written as a word. -/
def word? (t : Text) : Option (Toml × Text) :=
  words.findSome? fun word => (Text.dropStart? word t).map fun rest => (.float word, rest)

/-- A number, a date or a time. -/
def read (t : Text) : Except ReadError (Toml × Text) :=
  match dateTime? t with
  | some result => result
  | none =>
    match based? t with
    | some result => .ok result
    | none =>
      match decimal? t with
      | some result => result
      | none =>
        match word? t with
        | some result => .ok result
        | none => .error .malformed

end Scalar

end Toml

end PatchReview
