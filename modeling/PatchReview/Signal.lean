/-
Signals.

A signal says which added lines a rule looks for.  `regex:` introduces a pattern that
has to match somewhere in the line, `added-line:` and `pattern:` introduce a text that
the line has to contain, and any other signal is such a text itself.  A pattern that
breaks the rules of patterns matches no line, so a broken exemption exempts nothing.
-/
import PatchReview.Regex.Match
import PatchReview.Regex.Parser
import PatchReview.Text.Order

namespace PatchReview

/-- Why a review cannot be finished. -/
inductive ReviewError
  /-- A numeral is beyond the limit. -/
  | numeral (error : NumeralError)
  /-- A pattern repeats something more often than can be counted. -/
  | repetitionTooLarge
  /-- A pattern asks for ASCII classes and for Unicode classes at once. -/
  | flagsIncompatible
  /-- The stack does not suffice for a pattern. -/
  | nestedTooDeep
deriving DecidableEq, Repr

namespace ReviewError

/-- What is said about an error. -/
def message : ReviewError → Text
  | numeral e => e.message
  | repetitionTooLarge => "the repetition number is too large"
  | flagsIncompatible => "ASCII and UNICODE flags are incompatible"
  | nestedTooDeep => "maximum recursion depth exceeded"

end ReviewError

/-- A signal, ready to be tested. -/
inductive Signal
  /-- A pattern that matches somewhere in the line. -/
  | regex (regex : Regex)
  /-- A text that the line contains. -/
  | literal (part : Text)
  /-- Nothing: the pattern is broken. -/
  | never
deriving DecidableEq, Repr

namespace Signal

variable [Host]

/-- What introduces a pattern. -/
def regexMark : Text := "regex:"

/-- What may introduce a text. -/
def literalMarks : List Text := ["added-line:", "pattern:"]

/-- The pattern of a signal that is one. -/
def pattern? (signal : Text) : Option Text := Text.dropStart? regexMark signal

/-- The text that a signal without a pattern looks for. -/
def literalOf (signal : Text) : Text :=
  (literalMarks.findSome? fun mark => Text.dropStart? mark signal).getD signal

/-- Makes a signal ready. -/
def compile (signal : Text) : Except ReviewError Signal :=
  match pattern? signal with
  | none => .ok (.literal (literalOf signal))
  | some pattern =>
    match Regex.compile pattern with
    | .ok compiled => .ok (.regex compiled)
    | .error .malformed => .ok .never
    | .error .repetitionTooLarge => .error .repetitionTooLarge
    | .error .flagsIncompatible => .error .flagsIncompatible
    | .error .nestedTooDeep => .error .nestedTooDeep
    | .error (.numeral e) => .error (.numeral e)

/-- Whether a signal finds what it looks for in a line. -/
def holds (line : Text) : Signal → Bool
  | regex r => r.occursIn line
  | literal part => Text.contains part line
  | never => false

/-- Whether some signal holds of a line.  The signals are made ready one by one, and those behind the
first that holds are not looked at. -/
def lineMatches (line : Text) : List Text → Except ReviewError Bool
  | [] => .ok false
  | signal :: rest => do
    if (← compile signal).holds line then return true else lineMatches line rest

/-- Whether some signal holds of some line.  All signals are made ready first. -/
def anyMatches (lines : List Text) (signals : List Text) : Except ReviewError Bool := do
  let ready ← signals.mapM compile
  return lines.any fun line => ready.any (holds line)

/-- The pattern of a signal if it is broken. -/
def brokenPattern? (signal : Text) : Option Text :=
  match pattern? signal with
  | none => none
  | some pattern =>
    match Regex.compile pattern with
    | .error .malformed => some pattern
    | _ => none

/-- The broken patterns among some signals, in order and each once. -/
def brokenPatterns (signals : List Text) : List Text :=
  Text.sortedOnce (signals.filterMap brokenPattern?)

end Signal

end PatchReview
