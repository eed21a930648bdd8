/-
Loading rules leniently.

Whatever can be understood is taken: a value of another type counts as the text that
displays it, a missing or meaningless one as the default, and an entry without an id is
dropped.  Only a number too long to be written can stop the loading.
-/
import PatchReview.Json.Display
import PatchReview.Rule.Basic

namespace PatchReview

namespace Trigger

/-- The trigger that a value describes; only objects do. -/
def ofJson (v : Json) : Except NumeralError (Option Trigger) :=
  match v with
  | .object _ => do
    let typeName ← (v.field "type").displayOr TriggerKind.pattern.name
    let signals ← (v.field "signals").displayItems
    let exempt ← (v.field "exempt").displayItems
    let fileGlobs ← (v.field "file_glob").displayItems
    let evidence :=
      if (v.field "evidence").string? = some Evidence.diffAny.name then .diffAny
      else Evidence.addedOnly
    let requireSignal := !(v.field "requireSignalMatch").isEmpty
    return some { typeName, evidence, requireSignal, signals, exempt, fileGlobs }
  | _ => .ok none

end Trigger

namespace Rule

/-- The rule that a value describes, unless it has no id. -/
def ofJson (v : Json) : Except NumeralError (Option Rule) :=
  match v with
  | .object _ => do
    let id ← (v.field "id").displayOrEmpty
    if id.isEmpty then return none
    let area ← (v.field "area").displayOr []
    let description ← (v.field "description").displayOr []
    let trigger ← Trigger.ofJson (v.field "trigger")
    return some
      { id, area, severity := Severity.ofJson (v.field "severity"), description, trigger
        status := (v.field "status").string?, version := (v.field "version").int? }
  | _ => .ok none

end Rule

namespace RuleSet

/-- The rules that the items of a list describe. -/
def rulesOf : List Json → Except NumeralError (List Rule)
  | [] => .ok []
  | v :: rest => do
    let rule ← Rule.ofJson v
    let rules ← rulesOf rest
    return rule.toList ++ rules

/-- The rules document that a value describes; only objects do. -/
def ofJson (v : Json) : Except NumeralError (Option RuleSet) :=
  match v with
  | .object _ => do
    let rules ← rulesOf (v.field "rules").items
    let domain ← (v.field "domain").displayOr []
    return some { version := (v.field "version").int?.getD 1, domain, rules }
  | _ => .ok none

end RuleSet

end PatchReview
