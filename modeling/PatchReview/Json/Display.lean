/-
The text of a value.

Documents that are read leniently may hold any value where a text is expected; the
value then counts as the text that displays it.  A string displays as itself.  Inside
an array or an object strings are quoted.
-/
import PatchReview.Json.Basic
import PatchReview.Number.Decimal
import PatchReview.Number.Shortest
import PatchReview.Text.Quoted

namespace PatchReview

namespace Json

mutual

/-- A value as it displays inside another one. -/
def inner : Json → Except NumeralError Text
  | null => .ok "None"
  | bool b => .ok (if b then "True" else "False")
  | int n => Decimal.write n
  | float x => .ok x.write
  | string t => .ok t.quoted
  | array items => do return "[" ++ Text.join ", " (← innerItems items) ++ "]"
  | object fields => do return "\x7b" ++ Text.join ", " (← innerFields fields) ++ "\x7d"

/-- The items of an array, displayed. -/
def innerItems : List Json → Except NumeralError (List Text)
  | [] => .ok []
  | v :: rest => do
    let t ← inner v
    let ts ← innerItems rest
    return t :: ts

/-- The fields of an object, displayed. -/
def innerFields : List (Text × Json) → Except NumeralError (List Text)
  | [] => .ok []
  | (key, v) :: rest => do
    let t ← inner v
    let ts ← innerFields rest
    return (key.quoted ++ ": " ++ t) :: ts

end

/-- The text of a value. -/
def display : Json → Except NumeralError Text
  | string t => .ok t
  | v => v.inner

/-- The text of a value, where null has none. -/
def displayOrEmpty : Json → Except NumeralError Text
  | null => .ok []
  | v => v.display

/-- The text of a value that says something; `fallback` stands for one that says nothing. -/
def displayOr (fallback : Text) (v : Json) : Except NumeralError Text :=
  if v.isEmpty then .ok fallback else v.display

/-- The texts of the items of an array; a value that is no array has no items. -/
def displayItems (v : Json) : Except NumeralError (List Text) := v.items.mapM display

end Json

end PatchReview
