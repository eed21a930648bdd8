/-
Severities.

There are four, from critical down to info.  A severity that is not one of these words
counts as minor.
-/
import PatchReview.Json.Basic

namespace PatchReview

/-- How grave a finding is. -/
inductive Severity
  | critical
  | major
  | minor
  | info
deriving DecidableEq, Repr

namespace Severity

/-- All severities, the gravest first. -/
def all : List Severity := [critical, major, minor, info]

/-- The word for a severity. -/
def name : Severity → Text
  | critical => "critical"
  | major => "major"
  | minor => "minor"
  | info => "info"

/-- The severity of a word. -/
def ofName? (word : Text) : Option Severity := all.find? fun s => s.name == word

/-- The severity that a word counts as. -/
def ofText (word : Text) : Severity := (ofName? word).getD minor

/-- The severity that a value counts as. -/
def ofJson (v : Json) : Severity := (v.string?.map ofText).getD minor

/-- How high a severity ranks; graver ones rank higher. -/
def rank : Severity → Nat
  | info => 0
  | minor => 1
  | major => 2
  | critical => 3

end Severity

end PatchReview
