/-
Decimal numerals.

Whole numbers are unbounded, but their numerals are not: neither reading nor writing
goes beyond 4300 digits.  A longer numeral is refused with the number of its digits, a
number that would need more digits is refused without it.
-/
import PatchReview.Text.Blank
import PatchReview.Text.CodePoint
import PatchReview.Text.Digit

namespace PatchReview

/-- A numeral beyond the limit. -/
inductive NumeralError
  /-- A numeral of so many digits is not read. -/
  | tooLongToRead (digits : Nat)
  /-- The number has too many digits to be written. -/
  | tooLongToWrite
deriving DecidableEq, Repr

namespace Decimal

/-- No numeral that is read or written has more digits. -/
def digitLimit : Nat := 4300

/-- The numeral of a natural number, without a limit. -/
def ofNat (n : Nat) : Text := (Nat.toDigits 10 n).map CodePoint.ofChar

/-- The numeral of a whole number, without a limit. -/
def ofInt : Int → Text
  | .ofNat n => ofNat n
  | .negSucc n => '-' :: ofNat (n + 1)

/-- Whether the digits of a number stay within the limit. -/
def isWritable (n : Nat) : Bool := n < Nat.pow 10 digitLimit

/-- The numeral of a whole number; its sign does not count against the limit. -/
def write (n : Int) : Except NumeralError Text :=
  if isWritable n.natAbs then .ok (ofInt n) else .error .tooLongToWrite

/-- The number that some digit values denote. -/
def valueOf (digits : List Nat) : Nat := digits.foldl (fun n d => n * 10 + d) 0

/-- The number that decimal digits of any script denote; leading zeros count as digits. -/
def read (digits : Text) : Except NumeralError Nat :=
  if digits.length ≤ digitLimit then .ok (valueOf (digits.filterMap CodePoint.digitValue?))
  else .error (.tooLongToRead digits.length)

/-- The decimal digits at the start of a text, and the rest. -/
def span (t : Text) : Text × Text := (t.takeWhile CodePoint.isDigit, t.dropWhile CodePoint.isDigit)

/-- The digits of a text that has nothing but decimal digits and single underscores between them. -/
def digitsOf? : Text → Option Text
  | [] => none
  | [c] => if c.isDigit then some [c] else none
  | c :: d :: t =>
    if !c.isDigit then none
    else if d = '_' then (digitsOf? t).map (c :: ·)
    else (digitsOf? (d :: t)).map (c :: ·)

/-- The white space that may stand around a whole number: that of ASCII, unless the text goes beyond
ASCII. -/
def isPadding (t : Text) (c : CodePoint) : Bool :=
  if t.all fun c => c.toNat < 128 then c.isAsciiBlank else c.isBlank

/-- The whole number that a text gives, with or without a sign. -/
def ofText? (t : Text) : Option Int :=
  let inner := Text.dropEndWhile (isPadding t) (t.dropWhile (isPadding t))
  let negative := inner.head? = some (CodePoint.ofChar '-')
  let signed := negative || inner.head? == some (CodePoint.ofChar '+')
  match digitsOf? (if signed then inner.drop 1 else inner) with
  | none => none
  | some digits =>
    match read digits with
    | .error _ => none
    | .ok n => some (if negative then -(n : Int) else n)

end Decimal

namespace NumeralError

/-- What is said about a numeral beyond the limit. -/
def message : NumeralError → Text
  | tooLongToRead digits =>
    "Exceeds the limit (4300 digits) for integer string conversion: value has "
      ++ Decimal.ofNat digits
      ++ " digits; use sys.set_int_max_str_digits() to increase the limit"
  | tooLongToWrite =>
    "Exceeds the limit (4300 digits) for integer string conversion; "
      ++ "use sys.set_int_max_str_digits() to increase the limit"

end NumeralError

end PatchReview
