/-
Loading boundaries leniently.

A forbidden import needs a name and its two globs, a layer a name and a path; entries
without them are dropped.
-/
import PatchReview.Boundary.Basic
import PatchReview.Json.Display

namespace PatchReview

namespace BoundaryRule

/-- The glob that a value holds. -/
def globOf? (v : Json) : Option Text :=
  match (v.field "glob").string? with
  | some (c :: t) => some (c :: t)
  | _ => none

/-- The rule that a value describes. -/
def ofJson (v : Json) : Except NumeralError (Option BoundaryRule) :=
  match globOf? (v.field "from"), globOf? (v.field "to") with
  | some source, some target => do
    if (v.field "rule").isEmpty then return none
    let name ← (v.field "rule").display
    let allowVia ← (v.field "allowVia").displayItems
    let explanation ←
      if (v.field "explain").isEmpty then pure none
      else some <$> (v.field "explain").display
    return some { name, source, target, allowVia, explanation }
  | _, _ => .ok none

end BoundaryRule

namespace Layer

/-- The layer that a value describes. -/
def ofJson (v : Json) : Except NumeralError (Option Layer) := do
  if (v.field "name").isEmpty || (v.field "path").isEmpty then return none
  let name ← (v.field "name").display
  let path ← (v.field "path").display
  return some { name, path := Text.slashed path, index := (v.field "index").int?.getD 0 }

end Layer

namespace Boundaries

/-- What the items of a list describe, as far as they describe anything. -/
def collect {α : Type} (describe : Json → Except NumeralError (Option α)) :
    List Json → Except NumeralError (List α)
  | [] => .ok []
  | v :: rest => do
    let found ← describe v
    let others ← collect describe rest
    return found.toList ++ others

/-- The boundaries document that a value describes; only objects do. -/
def ofJson (v : Json) : Except NumeralError (Option Boundaries) :=
  match v with
  | .object _ => do
    let forbidden ← collect BoundaryRule.ofJson (v.field "forbidden").items
    let layers ← collect Layer.ofJson (v.field "layers").items
    return some { forbidden, layers }
  | _ => .ok none

end Boundaries

end PatchReview
