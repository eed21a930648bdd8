/-
Constraints.

A constraint is what a review needs to know of a rule: its id, the area and severity of
its findings, and the trigger that applies.
-/
import PatchReview.Rule.Load

namespace PatchReview

/-- The settings of a rule with the defaults applied. -/
structure RuleConstraint where
  id : Text
  area : Text
  severity : Severity
  trigger : Trigger
deriving DecidableEq, Repr

namespace RuleConstraint

/-- The constraint of a rule. -/
def ofRule (rule : Rule) : RuleConstraint :=
  { id := rule.id, area := rule.area, severity := rule.severity, trigger := rule.effectiveTrigger }

/-- The constraints of a document, one per rule in order; without a document there are none. -/
def ofRules (rules : Option RuleSet) : List RuleConstraint :=
  match rules with
  | none => []
  | some set => set.rules.map ofRule

/-- The last constraint of an id. -/
def find? (constraints : List RuleConstraint) (id : Text) : Option RuleConstraint :=
  constraints.reverse.find? fun constraint => constraint.id == id

end RuleConstraint

end PatchReview
