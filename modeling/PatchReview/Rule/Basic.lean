/-
Rules.

A rules document names its domain and lists rules.  The trigger of a rule says how the
rule is applied: rules with the triggers `pattern`, `heuristic` and `hybrid` look at
added lines, `llm` hands the lines to another reviewer, and a trigger of any other type
is kept with the document but not applied.
-/
import PatchReview.Severity

namespace PatchReview

/-- How a rule is applied. -/
inductive TriggerKind
  | pattern
  | heuristic
  | hybrid
  | llm
deriving DecidableEq, Repr

namespace TriggerKind

/-- All kinds. -/
def all : List TriggerKind := [pattern, heuristic, hybrid, llm]

/-- The word for a kind. -/
def name : TriggerKind → Text
  | pattern => "pattern"
  | heuristic => "heuristic"
  | hybrid => "hybrid"
  | llm => "llm"

/-- The kind of a word. -/
def ofName? (word : Text) : Option TriggerKind := all.find? fun kind => kind.name == word

end TriggerKind

/-- What a rule may take as evidence. -/
inductive Evidence
  | addedOnly
  | diffAny
deriving DecidableEq, Repr

namespace Evidence

/-- All kinds of evidence. -/
def all : List Evidence := [addedOnly, diffAny]

/-- The word for a kind of evidence. -/
def name : Evidence → Text
  | addedOnly => "added-only"
  | diffAny => "diff-any"

end Evidence

/-- When and where a rule applies. -/
structure Trigger where
  /-- The type as it is written. -/
  typeName : Text := TriggerKind.pattern.name
  evidence : Evidence := .addedOnly
  /-- Only lines on which a signal holds count. -/
  requireSignal : Bool := false
  /-- What the rule looks for. -/
  signals : List Text := []
  /-- A file with a line on which one of these holds is exempt. -/
  exempt : List Text := []
  /-- The files the rule is for; all files when there are none. -/
  fileGlobs : List Text := []
deriving DecidableEq, Repr

namespace Trigger

/-- The kind of a trigger, if its type is a known one. -/
def kind? (trigger : Trigger) : Option TriggerKind := TriggerKind.ofName? trigger.typeName

/-- A trigger as it is written. -/
def toJson (trigger : Trigger) : Json :=
  .object
    [("type", .string trigger.typeName), ("evidence", .string trigger.evidence.name),
      ("requireSignalMatch", .bool trigger.requireSignal),
      ("signals", Json.strings trigger.signals), ("exempt", Json.strings trigger.exempt),
      ("file_glob", Json.strings trigger.fileGlobs)]

end Trigger

/-- The states that a rule may be in. -/
def ruleStatuses : List Text := ["active", "experimental", "deprecated"]

/-- A rule. -/
structure Rule where
  id : Text
  area : Text
  severity : Severity
  description : Text := []
  trigger : Option Trigger := none
  status : Option Text := none
  version : Option Int := none
deriving DecidableEq, Repr

namespace Rule

/-- The trigger that applies; a rule without one reports every added line. -/
def effectiveTrigger (rule : Rule) : Trigger := rule.trigger.getD {}

end Rule

/-- A rules document. -/
structure RuleSet where
  version : Int := 1
  domain : Text := []
  rules : List Rule := []
deriving DecidableEq, Repr

namespace RuleSet

/-- The last rule of an id. -/
def find? (set : RuleSet) (id : Text) : Option Rule :=
  set.rules.reverse.find? fun rule => rule.id == id

end RuleSet

end PatchReview
