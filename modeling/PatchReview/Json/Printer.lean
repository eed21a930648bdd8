/-
Printing JSON.

A layout says how a value is laid out: whether code points beyond ASCII are escaped,
what separates items and keys from values, and whether each item stands on a line of
its own.  Fields are always printed in the order of their keys.
-/
import PatchReview.Json.Display

namespace PatchReview

namespace Json

/-- How JSON is laid out. -/
structure Layout where
  /-- Escape everything beyond ASCII, in units of UTF-16. -/
  asciiOnly : Bool
  /-- Between two items on one line. -/
  comma : Text
  /-- Between a key and its value. -/
  colon : Text
  /-- The indentation of each level, when every item has a line of its own. -/
  indent : Option Nat

namespace Layout

/-- On one line, with a space after commas and colons. -/
def spaced : Layout := { asciiOnly := true, comma := ", ", colon := ": ", indent := none }

/-- One item per line, two spaces deeper on each level. -/
def indented : Layout := { asciiOnly := true, comma := ",", colon := ": ", indent := some 2 }

/-- The densest form, in which everything that may stand unescaped does: two values with the same
dense form are the same. -/
def dense : Layout := { asciiOnly := false, comma := ",", colon := ":", indent := none }

end Layout

/-- A UTF-16 unit as an escape. -/
def unitEscape (n : Nat) : Text := "\\u" ++ Text.hexDigits n 4

/-- A code point inside a JSON string. -/
def stringOne (asciiOnly : Bool) (c : CodePoint) : Text :=
  if c = '"' then "\\\""
  else if c = '\\' then "\\\\"
  else if c.toNat = 8 then "\\b"
  else if c.toNat = 12 then "\\f"
  else if c.toNat = 10 then "\\n"
  else if c.toNat = 13 then "\\r"
  else if c.toNat = 9 then "\\t"
  else if c.toNat < 32 then unitEscape c.toNat
  else if c.toNat < 127 ∨ ¬ asciiOnly then [c]
  else if c.toNat < 0x10000 then unitEscape c.toNat
  else
    let rest := c.toNat - 0x10000
    unitEscape (0xD800 + rest / 1024) ++ unitEscape (0xDC00 + rest % 1024)

/-- A text as a JSON string. -/
def stringLiteral (asciiOnly : Bool) (t : Text) : Text :=
  "\"" ++ t.flatMap (stringOne asciiOnly) ++ "\""

/-- A number as JSON; what JSON has no numeral for is written as a word. -/
def floatLiteral : Binary64 → Text
  | .infinite negative => if negative then "-Infinity" else "Infinity"
  | .notANumber => "NaN"
  | x => x.write

/-- Brackets around printed items, laid out for a level. -/
def enclose (layout : Layout) (level : Nat) (opening closing : Text) (items : List Text) : Text :=
  if items.isEmpty then opening ++ closing
  else
    match layout.indent with
    | none => opening ++ Text.join layout.comma items ++ closing
    | some width =>
      let line (depth : Nat) : Text := "\n" ++ List.replicate (depth * width) (CodePoint.ofChar ' ')
      opening ++ line (level + 1) ++ Text.join (layout.comma ++ line (level + 1)) items
        ++ line level ++ closing

mutual

/-- Prints a value that stands at a level. -/
def printAt (layout : Layout) (level : Nat) : Json → Except NumeralError Text
  | null => .ok "null"
  | bool b => .ok (if b then "true" else "false")
  | int n => Decimal.write n
  | float x => .ok (floatLiteral x)
  | string t => .ok (stringLiteral layout.asciiOnly t)
  | array items => do
    return enclose layout level "[" "]" (← printItems layout (level + 1) items)
  | object fields => do
    let printed ← printFields layout (level + 1) fields
    let sorted := printed.mergeSort fun a b => a.1.notAfter b.1
    return enclose layout level "\x7b" "\x7d" (sorted.map Prod.snd)

/-- Prints the items of an array. -/
def printItems (layout : Layout) (level : Nat) : List Json → Except NumeralError (List Text)
  | [] => .ok []
  | v :: rest => do
    let t ← printAt layout level v
    let ts ← printItems layout level rest
    return t :: ts

/-- Prints the fields of an object, each with its key beside it. -/
def printFields (layout : Layout) (level : Nat) :
    List (Text × Json) → Except NumeralError (List (Text × Text))
  | [] => .ok []
  | (key, v) :: rest => do
    let t ← printAt layout level v
    let ts ← printFields layout level rest
    return (key, stringLiteral layout.asciiOnly key ++ layout.colon ++ t) :: ts

end

/-- Prints a value. -/
def print (layout : Layout) (v : Json) : Except NumeralError Text := v.printAt layout 0

end Json

end PatchReview
