/-
JSON values.

Whole numbers and numbers with a fraction or an exponent are different kinds, so `1` is
no `1.0`.  An object is a list of fields in the order of their first appearance; a key
that is written again keeps its place and takes the last value.
-/
import PatchReview.Number.Binary64
import PatchReview.Text.CodePoint

namespace PatchReview

/-- A JSON value. -/
inductive Json where
  | null
  | bool (value : Bool)
  | int (value : Int)
  | float (value : Binary64)
  | string (value : Text)
  | array (items : List Json)
  | object (fields : List (Text × Json))
deriving Inhabited

namespace Json

/-- The fields of an object. -/
abbrev Fields := List (Text × Json)

namespace Fields

/-- Sets a field: in its place if the key is there, at the end if not. -/
def insert (key : Text) (value : Json) : Fields → Fields
  | [] => [(key, value)]
  | (k, v) :: rest =>
    if k = key then (k, value) :: rest else (k, v) :: insert key value rest

/-- The value of a field. -/
def get? (key : Text) : Fields → Option Json
  | [] => none
  | (k, v) :: rest => if k = key then some v else get? key rest

end Fields

/-- The value of a field; only objects have fields. -/
def get? (value : Json) (key : Text) : Option Json :=
  match value with
  | object fields => Fields.get? key fields
  | _ => none

/-- The value of a field, null when it is missing. -/
def field (value : Json) (key : Text) : Json := (value.get? key).getD null

/-- The items of an array; other values have none. -/
def items : Json → List Json
  | array items => items
  | _ => []

/-- The text of a string value. -/
def string? : Json → Option Text
  | string t => some t
  | _ => none

/-- The number of a whole-number value. -/
def int? : Json → Option Int
  | int n => some n
  | _ => none

/-- Whether the value says nothing: null, false, a zero, or something empty. -/
def isEmpty : Json → Bool
  | null => true
  | bool b => !b
  | int n => n == 0
  | float x => x.isZero
  | string t => List.isEmpty t
  | array items => List.isEmpty items
  | object fields => List.isEmpty fields

/-- An array of strings. -/
def strings (texts : List Text) : Json := array (texts.map string)

/-- A string, or null when there is none. -/
def ofText? : Option Text → Json
  | none => null
  | some t => string t

end Json

end PatchReview
