/-
Reading JSON.

The reader walks a text from left to right and stops at the first thing that cannot
stand where it does; the error names it and its position.  It is a little wider than
the standard: `NaN`, `Infinity` and `-Infinity` are numbers, and an escape may denote a
lone surrogate.  A number too large for binary64 is an infinity.
-/
import PatchReview.Json.Basic
import PatchReview.Number.Decimal

namespace PatchReview

namespace Json

/-- What is wrong with a JSON text. -/
inductive Fault
  | valueExpected
  | keyExpected
  | colonExpected
  | commaExpected
  | stringUnterminated
  | controlCharacter
  | escapeUnknown
  | hexEscapeMalformed
  | dataAfterValue
  | byteOrderMark
deriving DecidableEq, Repr

/-- Why a text is no JSON: a fault at a position, or a numeral beyond the limit. -/
inductive ReadError
  | malformed (fault : Fault) (position : Nat)
  | numeral (error : NumeralError)
deriving DecidableEq, Repr

namespace Reader

/-- While reading, the place of a fault is known by how much of the text is left there. -/
inductive Stop
  | fault (fault : Fault) (left : Nat)
  | numeral (error : NumeralError)

/-- Something read, and the text after it. -/
abbrev Result (α : Type) := Except Stop (α × Text)

/-- The white space of JSON. -/
def isSpace (c : CodePoint) : Bool :=
  c.toNat == 32 || c.toNat == 9 || c.toNat == 10 || c.toNat == 13

/-- Drops white space. -/
def skipSpace (t : Text) : Text := t.dropWhile isSpace

/-- Stops in front of `t`. -/
def stop {α : Type} (fault : Fault) (t : Text) : Except Stop α := .error (.fault fault t.length)

/-! ### Strings -/

/-- What an escape of one letter stands for. -/
def escaped? (c : CodePoint) : Option CodePoint :=
  if c = '"' ∨ c = '\\' ∨ c = '/' then some c
  else if c = 'b' then some (Char.ofNat 8)
  else if c = 'f' then some (Char.ofNat 12)
  else if c = 'n' then some (Char.ofNat 10)
  else if c = 'r' then some (Char.ofNat 13)
  else if c = 't' then some (Char.ofNat 9)
  else none

/-- The number of four hexadecimal digits. -/
def hex4? (a b c d : CodePoint) : Option Nat := do
  let a ← a.hexValue?
  let b ← b.hexValue?
  let c ← c.hexValue?
  let d ← d.hexValue?
  return ((a * 16 + b) * 16 + c) * 16 + d

/-- Puts the number of a hexadecimal escape in front of what was read so far, last first.  A low
surrogate joins a high surrogate right before it. -/
def pushUnit (n : Nat) : Text → Text
  | [] => (CodePoint.ofNat? n).toList
  | high :: rest =>
    let joined := 0x10000 + (high.toNat - 0xD800) * 1024 + (n - 0xDC00)
    let pair := 0xD800 ≤ high.toNat && high.toNat < 0xDC00 && 0xDC00 ≤ n && n < 0xE000
    if pair then (CodePoint.ofNat? joined).toList ++ rest
    else (CodePoint.ofNat? n).toList ++ high :: rest

/-- Reads a string after its opening quote, in front of which `opening` code points were left;
`read` holds what was read so far, last first. -/
def stringBody (opening : Nat) (read : Text) : Text → Result Text
  | [] => .error (.fault .stringUnterminated opening)
  | c :: t =>
    if c = '"' then .ok (read.reverse, t)
    else if c = '\\' then
      match t with
      | [] => .error (.fault .stringUnterminated opening)
      | e :: t =>
        if e = 'u' then
          match t with
          | h₁ :: h₂ :: h₃ :: h₄ :: after :: t =>
            match hex4? h₁ h₂ h₃ h₄ with
            | some n => stringBody opening (pushUnit n read) (after :: t)
            | none => .error (.fault .hexEscapeMalformed (t.length + 6))
          | t => .error (.fault .hexEscapeMalformed (t.length + 1))
        else
          match escaped? e with
          | some d => stringBody opening (d :: read) t
          | none => .error (.fault .escapeUnknown (t.length + 2))
    else if c.toNat < 32 then .error (.fault .controlCharacter (t.length + 1))
    else stringBody opening (c :: read) t

/-! ### Numbers -/

/-- The ASCII digits at the start of a text, and the rest. -/
def digits (t : Text) : Text × Text :=
  (t.takeWhile CodePoint.isAsciiDigit, t.dropWhile CodePoint.isAsciiDigit)

/-- The digits of a whole part: no digit follows a leading zero. -/
def wholePart (t : Text) : Text × Text :=
  match t with
  | [] => ([], [])
  | c :: rest => if c = '0' then ([c], rest) else digits t

/-- A point and the digits after it, if there is at least one. -/
def fractionPart (t : Text) : Text × Text :=
  match Text.dropStart? "." t with
  | none => ([], t)
  | some rest => if (digits rest).1.isEmpty then ([], t) else digits rest

/-- The exponent, if the text goes on with a complete one. -/
def exponentPart (t : Text) : Option Int × Text :=
  match t with
  | [] => (none, t)
  | e :: rest =>
    if e = 'e' ∨ e = 'E' then
      let negative := rest.head? = some (CodePoint.ofChar '-')
      let signed := negative ∨ rest.head? = some (CodePoint.ofChar '+')
      let (power, after) := digits (if signed then rest.drop 1 else rest)
      if power.isEmpty then (none, t)
      else
        let size := Decimal.valueOf (power.filterMap CodePoint.digitValue?)
        (some (if negative then -(size : Int) else size), after)
    else (none, t)

/-- Reads a number. -/
def number (t : Text) : Result Json :=
  let negative := t.head? = some (CodePoint.ofChar '-')
  let (whole, rest) := wholePart (if negative then t.drop 1 else t)
  if whole.isEmpty then stop .valueExpected t
  else
    let (fraction, rest) := fractionPart rest
    let (exponent, rest) := exponentPart rest
    if fraction.isEmpty ∧ exponent.isNone then
      match Decimal.read whole with
      | .error e => .error (.numeral e)
      | .ok n => .ok (int (if negative then -(n : Int) else n), rest)
    else
      let all := whole ++ fraction
      let significand := Decimal.valueOf (all.filterMap CodePoint.digitValue?)
      let power := exponent.getD 0 - fraction.length
      .ok (float (Binary64.ofDecimal negative significand all.length power), rest)

/-- The words that are values, and the numbers that are written as words. -/
def words : List (Text × Json) :=
  [("null", null), ("true", bool true), ("false", bool false), ("NaN", float .notANumber),
    ("Infinity", float (.infinite false)), ("-Infinity", float (.infinite true))]

/-- A value that is no string, array or object. -/
def atom (t : Text) : Result Json :=
  match words.find? fun word => t.startsWith word.1 with
  | some (word, value) => .ok (value, t.drop word.length)
  | none => number t

/-! ### Values -/

mutual

/-- Reads a value.  The first argument bounds the nesting and the number of items; the length of the
text is enough. -/
def value : Nat → Text → Result Json
  | 0, t => stop .valueExpected t
  | fuel + 1, t =>
    match t with
    | [] => stop .valueExpected t
    | c :: rest =>
      if c = '"' then (stringBody t.length [] rest).map fun (s, t) => (string s, t)
      else if c = '[' then
        let rest := skipSpace rest
        if rest.head? = some (CodePoint.ofChar ']') then .ok (array [], rest.drop 1)
        else arrayItems fuel [] rest
      else if c = '\x7b' then
        let rest := skipSpace rest
        if rest.head? = some (CodePoint.ofChar '\x7d') then .ok (object [], rest.drop 1)
        else objectFields fuel [] rest
      else atom t

/-- Reads the items of an array up to its end; `read` holds the items so far, last first. -/
def arrayItems : Nat → List Json → Text → Result Json
  | 0, _, t => stop .valueExpected t
  | fuel + 1, read, t =>
    match value fuel t with
    | .error e => .error e
    | .ok (v, t) =>
      match skipSpace t with
      | [] => stop .commaExpected []
      | c :: rest =>
        if c = ']' then .ok (array (v :: read).reverse, rest)
        else if c = ',' then arrayItems fuel (v :: read) (skipSpace rest)
        else stop .commaExpected (c :: rest)

/-- Reads the fields of an object up to its end. -/
def objectFields : Nat → Fields → Text → Result Json
  | 0, _, t => stop .keyExpected t
  | fuel + 1, read, t =>
    match t with
    | [] => stop .keyExpected t
    | c :: rest =>
      if c ≠ '"' then stop .keyExpected t
      else
        match stringBody t.length [] rest with
        | .error e => .error e
        | .ok (key, t) =>
          match skipSpace t with
          | [] => stop .colonExpected []
          | c :: rest =>
            if c ≠ ':' then stop .colonExpected (c :: rest)
            else
              match value fuel (skipSpace rest) with
              | .error e => .error e
              | .ok (v, t) =>
                match skipSpace t with
                | [] => stop .commaExpected []
                | c :: rest =>
                  if c = '\x7d' then .ok (object (Fields.insert key v read), rest)
                  else if c = ',' then
                    objectFields fuel (Fields.insert key v read) (skipSpace rest)
                  else stop .commaExpected (c :: rest)

end

/-- The byte order mark. -/
def byteOrderMark : CodePoint := '\uFEFF'

/-- Reads a whole text as one value. -/
def document (t : Text) : Except Stop Json :=
  if t.head? = some byteOrderMark then stop .byteOrderMark t
  else
    match value (t.length + 1) (skipSpace t) with
    | .error e => .error e
    | .ok (v, rest) =>
      let rest := skipSpace rest
      if rest.isEmpty then .ok v else stop .dataAfterValue rest

end Reader

/-- The value that a text denotes. -/
def read (t : Text) : Except ReadError Json :=
  match Reader.document t with
  | .ok v => .ok v
  | .error (.fault fault left) => .error (.malformed fault (t.length - left))
  | .error (.numeral e) => .error (.numeral e)

namespace Fault

/-- The words for a fault. -/
def description : Fault → Text
  | valueExpected => "Expecting value"
  | keyExpected => "Expecting property name enclosed in double quotes"
  | colonExpected => "Expecting ':' delimiter"
  | commaExpected => "Expecting ',' delimiter"
  | stringUnterminated => "Unterminated string starting at"
  | controlCharacter => "Invalid control character at"
  | escapeUnknown => "Invalid \\escape"
  | hexEscapeMalformed => "Invalid \\uXXXX escape"
  | dataAfterValue => "Extra data"
  | byteOrderMark => "Unexpected UTF-8 BOM (decode using utf-8-sig)"

/-- A fault with its place in `t`: lines and columns count from one, code points from zero. -/
def message (fault : Fault) (t : Text) (position : Nat) : Text :=
  let before := t.take position
  let line := before.count CodePoint.lineFeed + 1
  let column := (before.reverse.takeWhile (· != CodePoint.lineFeed)).length + 1
  fault.description ++ ": line " ++ Decimal.ofNat line ++ " column " ++ Decimal.ofNat column
    ++ " (char " ++ Decimal.ofNat position ++ ")"

end Fault

end Json

end PatchReview
