/-
TOML values.

Tables keep their fields in order.  Floats, dates and times are kept as they are
written, since nothing is computed with them.
-/
import PatchReview.Number.Decimal

namespace PatchReview

/-- A TOML value. -/
inductive Toml where
  | string (t : Text)
  | integer (n : Int)
  | float (written : Text)
  | boolean (value : Bool)
  /-- A date, a time, or both. -/
  | dateTime (written : Text)
  | array (items : List Toml)
  | table (fields : List (Text × Toml))
deriving Inhabited

namespace Toml

/-- The fields of a table. -/
abbrev Fields := List (Text × Toml)

namespace Fields

/-- The value of a field. -/
def get? (key : Text) : Fields → Option Toml
  | [] => none
  | (k, v) :: rest => if k = key then some v else get? key rest

/-- Sets a field: in its place if the key is there, at the end if not. -/
def set (key : Text) (value : Toml) : Fields → Fields
  | [] => [(key, value)]
  | (k, v) :: rest => if k = key then (k, value) :: rest else (k, v) :: set key value rest

end Fields

/-- The fields of a value that is a table. -/
def fields? : Toml → Option Fields
  | table fields => some fields
  | _ => none

/-- Whether the value was written inline with fields or items of its own. -/
def isContainer : Toml → Bool
  | array _ => true
  | table _ => true
  | _ => false

mutual

/-- Checks that all whole numbers in a value can be written. -/
def checkWritable : Toml → Except NumeralError Unit
  | integer n => do
    let _ ← Decimal.write n
    return ()
  | array items => checkItems items
  | table fields => checkFields fields
  | _ => .ok ()

/-- Checks the items of an array. -/
def checkItems : List Toml → Except NumeralError Unit
  | [] => .ok ()
  | v :: rest => do
    checkWritable v
    checkItems rest

/-- Checks the fields of a table. -/
def checkFields : List (Text × Toml) → Except NumeralError Unit
  | [] => .ok ()
  | (_, v) :: rest => do
    checkWritable v
    checkFields rest

end

/-- The word that a value gives where one of a few words is wanted.  Only strings give one, but a
value that could not even be written is an error. -/
def word? : Toml → Except NumeralError (Option Text)
  | string t => .ok (some t)
  | v => do
    checkWritable v
    return none

end Toml

end PatchReview
