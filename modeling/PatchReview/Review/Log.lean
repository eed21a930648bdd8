/-
What a review says while it runs.

The log names each rule with the number of files it looks at, the files that are exempt,
and the files without a signal where one is required.  The patterns that turned out
broken are those a rule came to use: its exemptions if it looks at a file, its signals if
it requires one and looks at a file that is not exempt.
-/
import PatchReview.Number.Decimal
import PatchReview.Review.Run
import PatchReview.Text.Quoted

namespace PatchReview

/-- How weighty an entry of the log is. -/
inductive LogLevel
  | debug
  | warning
deriving DecidableEq, Repr

/-- An entry of the log. -/
structure LogEntry where
  level : LogLevel
  message : Text
deriving DecidableEq, Repr

/-- The log of a review. -/
structure ReviewLog where
  entries : List LogEntry := []
  /-- The broken patterns that came to be used. -/
  broken : List Text := []
deriving DecidableEq, Repr

namespace LogLevel

/-- The word for a level. -/
def name : LogLevel → Text
  | debug => "DEBUG"
  | warning => "WARNING"

end LogLevel

namespace LogEntry

/-- An entry as a line. -/
def line (entry : LogEntry) : Text := entry.level.name ++ " " ++ entry.message

end LogEntry

namespace ReviewLog

/-- One log after another. -/
def append (a b : ReviewLog) : ReviewLog :=
  { entries := a.entries ++ b.entries, broken := a.broken ++ b.broken }

instance : Append ReviewLog := ⟨append⟩

/-- The logs of the items of a list, one after another. -/
def concat (logs : List ReviewLog) : ReviewLog := logs.foldr append {}

/-- A debugging entry. -/
def debug (message : Text) : ReviewLog := { entries := [⟨.debug, message⟩] }

/-- The broken patterns, sorted and each once. -/
def brokenPatterns (log : ReviewLog) : List Text := Text.sortedOnce log.broken

end ReviewLog

namespace RuleConstraint

variable [Host]

/-- What is said about a file in the scope of a rule. -/
def fileLog (rule : RuleConstraint) (options : ReviewOptions) (entry : PathLines) :
    Except ReviewError ReviewLog := do
  let exemptions : ReviewLog := { broken := Signal.brokenPatterns rule.trigger.exempt }
  if ← rule.exempts entry then
    return exemptions ++ ReviewLog.debug ("  " ++ entry.path ++ ": exempted")
  if rule.needsSignal options then
    let signals : ReviewLog := { broken := Signal.brokenPatterns rule.trigger.signals }
    if ← Signal.anyMatches entry.texts rule.trigger.signals then return exemptions ++ signals
    return exemptions ++ signals ++ ReviewLog.debug ("  " ++ entry.path ++ ": no signal match")
  return exemptions

/-- What is said about a rule of a known kind. -/
def scopeLog (rule : RuleConstraint) (kind : TriggerKind) (count : Nat) : ReviewLog :=
  ReviewLog.debug ("rule " ++ rule.id ++ " (type=" ++ kind.name ++ "): " ++ Decimal.ofNat count
    ++ " file(s) in scope")

/-- What is said about a rule of an unknown kind. -/
def skipLog (rule : RuleConstraint) : ReviewLog :=
  { entries := [⟨.warning,
      "Skipping rule " ++ rule.id ++ ": unknown trigger type " ++ rule.trigger.typeName.quoted⟩] }

/-- What is said about a rule. -/
def log (rule : RuleConstraint) (options : ReviewOptions) (entries : List PathLines) :
    Except ReviewError ReviewLog := do
  let scope := rule.scope entries
  match rule.trigger.kind? with
  | none => return rule.skipLog
  | some .llm => return rule.scopeLog .llm scope.length
  | some kind =>
    let logs ← scope.mapM (rule.fileLog options)
    return rule.scopeLog kind scope.length ++ ReviewLog.concat logs

end RuleConstraint

namespace Review

variable [Host]

/-- The log of a review of a diff; boundaries add nothing to it. -/
def log (diff : Text) (rules : Json) (options : ReviewOptions) : Except ReviewError ReviewLog := do
  let files ← parsed diff
  let rules ← (RuleSet.ofJson rules).mapError .numeral
  let entries := FileDiff.addedByFile files
  let logs ← (RuleConstraint.ofRules rules).mapM fun rule => rule.log options entries
  return ReviewLog.concat logs

end Review

end PatchReview
