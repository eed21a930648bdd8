/-
Code points and texts.

A text is a list of Unicode code points.  Reviews travel as JSON, and JSON strings
may hold halves of surrogate pairs that stand alone, so a code point here is any
number below `0x110000` and not only a scalar value.  Lengths, slices and the order
of texts all count code points.
-/

namespace PatchReview

/-- A Unicode code point; lone surrogates are included. -/
structure CodePoint where
  /-- The number of the code point. -/
  toNat : Nat
  /-- Unicode ends at `0x10FFFF`. -/
  isLt : toNat < 0x110000
deriving DecidableEq, Repr

namespace CodePoint

theorem ext {a b : CodePoint} (h : a.toNat = b.toNat) : a = b := by
  cases a; cases b; cases h; rfl

theorem toNat_inj {a b : CodePoint} : a.toNat = b.toNat ↔ a = b :=
  ⟨ext, fun h => h ▸ rfl⟩

/-- The code point of a character. -/
def ofChar (c : Char) : CodePoint :=
  ⟨c.toNat, by
    have h : c.toNat.isValidChar := c.valid
    simp only [Nat.isValidChar] at h
    omega⟩

instance : Coe Char CodePoint := ⟨ofChar⟩

instance : Inhabited CodePoint := ⟨ofChar ' '⟩

/-- The code point with number `n`, if there is one. -/
def ofNat? (n : Nat) : Option CodePoint :=
  if h : n < 0x110000 then some ⟨n, h⟩ else none

/-- Whether the code point is half of a surrogate pair. -/
def isSurrogate (c : CodePoint) : Bool := 0xD800 ≤ c.toNat && c.toNat < 0xE000

/-- Code points are ordered by number. -/
instance : LT CodePoint := ⟨fun a b => a.toNat < b.toNat⟩

instance (a b : CodePoint) : Decidable (a < b) := inferInstanceAs (Decidable (a.toNat < b.toNat))

instance : LE CodePoint := ⟨fun a b => a.toNat ≤ b.toNat⟩

instance (a b : CodePoint) : Decidable (a ≤ b) := inferInstanceAs (Decidable (a.toNat ≤ b.toNat))

theorem lt_def {a b : CodePoint} : a < b ↔ a.toNat < b.toNat := Iff.rfl

theorem le_def {a b : CodePoint} : a ≤ b ↔ a.toNat ≤ b.toNat := Iff.rfl

/-- The line feed, which ends a line. -/
def lineFeed : CodePoint := '\n'

/-- The carriage return, which may stand before a line feed. -/
def carriageReturn : CodePoint := '\r'

/-- An ASCII capital letter becomes its small letter; all else stays. -/
def asciiLower (c : CodePoint) : CodePoint :=
  if h : 65 ≤ c.toNat ∧ c.toNat ≤ 90 then ⟨c.toNat + 32, by omega⟩ else c

/-- An ASCII small letter becomes its capital letter; all else stays. -/
def asciiUpper (c : CodePoint) : CodePoint :=
  if 97 ≤ c.toNat ∧ c.toNat ≤ 122 then ⟨c.toNat - 32, by have := c.isLt; omega⟩ else c

/-- The decimal digits of ASCII, `0` to `9`. -/
def isAsciiDigit (c : CodePoint) : Bool := 48 ≤ c.toNat && c.toNat ≤ 57

/-- The letters of ASCII. -/
def isAsciiLetter (c : CodePoint) : Bool :=
  (65 ≤ c.toNat && c.toNat ≤ 90) || (97 ≤ c.toNat && c.toNat ≤ 122)

/-- The value of a hexadecimal digit, in either case. -/
def hexValue? (c : CodePoint) : Option Nat :=
  if c.isAsciiDigit then some (c.toNat - 48)
  else if 65 ≤ c.toNat ∧ c.toNat ≤ 70 then some (c.toNat - 55)
  else if 97 ≤ c.toNat ∧ c.toNat ≤ 102 then some (c.toNat - 87)
  else none

/-- The small hexadecimal digit of a number below sixteen. -/
def ofHexDigit (n : Nat) : CodePoint :=
  if n < 10 then ofChar (Char.ofNat (48 + n)) else ofChar (Char.ofNat (87 + n % 16))

end CodePoint

/-- A text is a list of code points. -/
abbrev Text := List CodePoint

namespace Text

/-- The text of a string. -/
def ofString (s : String) : Text := s.toList.map CodePoint.ofChar

instance : Coe String Text := ⟨ofString⟩

/-- Whether `t` begins with `start`. -/
def startsWith (t start : Text) : Bool := start.isPrefixOf t

/-- What follows `start` in a text that begins with it. -/
def dropStart? : (start t : Text) → Option Text
  | [], t => some t
  | _ :: _, [] => none
  | a :: start, b :: t => if a = b then dropStart? start t else none

/-- Whether `part` stands somewhere in `t`, its code points side by side. -/
def contains (part : Text) : Text → Bool
  | [] => part.isEmpty
  | c :: t => part.isPrefixOf (c :: t) || contains part t

/-- The text before the first `c`, or all of it. -/
def before (c : CodePoint) (t : Text) : Text := t.takeWhile (· != c)

/-- Cuts a text at each `c`; there is one part more than there are cuts. -/
def splitOn (c : CodePoint) : Text → List Text
  | [] => [[]]
  | d :: t =>
    if d = c then [] :: splitOn c t
    else match splitOn c t with
      | [] => [[d]]
      | part :: parts => (d :: part) :: parts

/-- Joins texts with `separator` between neighbours. -/
def join (separator : Text) : List Text → Text
  | [] => []
  | [t] => t
  | t :: u :: rest => t ++ separator ++ join separator (u :: rest)

/-- Drops the code points at the end of a text that satisfy `p`. -/
def dropEndWhile (p : CodePoint → Bool) (t : Text) : Text := (t.reverse.dropWhile p).reverse

/-- Writes each ASCII capital letter small. -/
def asciiLower (t : Text) : Text := t.map CodePoint.asciiLower

/-- Writes each ASCII small letter as a capital. -/
def asciiUpper (t : Text) : Text := t.map CodePoint.asciiUpper

/-- Texts are ordered by their first difference, a text before its extensions. -/
def precedes : Text → Text → Bool
  | [], [] => false
  | [], _ :: _ => true
  | _ :: _, [] => false
  | a :: s, b :: t => if a = b then precedes s t else a.toNat < b.toNat

/-- The order that sorting by text uses: `s` may stand before `t`. -/
def notAfter (s t : Text) : Bool := !precedes t s

/-- Quotes and joins words for a list in a message. -/
def commaList (words : List Text) : Text := join ", " words

/-- A text as a string; a lone surrogate has no character and becomes U+FFFD. -/
def toString (t : Text) : String :=
  String.ofList (t.map fun c => if c.isSurrogate then '\uFFFD' else Char.ofNat c.toNat)

end Text

end PatchReview
