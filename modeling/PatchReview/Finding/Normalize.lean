/-
Normalizing findings from elsewhere.

Findings come as a list, as an object that holds the list under `findings`, or as such
an object under `ai_review`.  A finding needs a rule and a file.  All else is brought
into shape: values count as the texts that display them, an unusable place becomes the
top of the file, and a fingerprint that is none is replaced.
-/
import PatchReview.Finding.Fingerprint
import PatchReview.Json.Display
import PatchReview.Text.Digit
import PatchReview.Text.Lines

namespace PatchReview

namespace Finding

/-- The area of a finding that names none. -/
def defaultArea : Text := "general"

/-- The place of a finding that names none. -/
def defaultLocator : Text := "L0"

/-- The text in front of a final line feed. -/
def withoutFinalFeed (t : Text) : Text :=
  if t.getLast? = some CodePoint.lineFeed then t.dropLast else t

/-- The place of a line: `L` and digits of any script. -/
def isLinePlace (t : Text) : Bool :=
  match Text.dropStart? "L" t with
  | none => false
  | some digits => !digits.isEmpty && digits.all CodePoint.isDigit

/-- The place of a hunk: `HUNK:@@` and a text on one line that ends in `@@`. -/
def isHunkPlace (t : Text) : Bool :=
  match Text.dropStart? "HUNK:@@" t with
  | none => false
  | some rest => Text.startsWith rest.reverse "@@" && Text.isSingleLine rest

/-- Whether a text can stand as a place; a final line feed is let pass. -/
def isPlace (t : Text) : Bool :=
  let t := withoutFinalFeed t
  isLinePlace t || isHunkPlace t

/-- The list of findings in a value. -/
def listed (v : Json) : List Json :=
  match v with
  | .array items => items
  | .object _ =>
    match v.field "ai_review" with
    | .object fields => ((Json.object fields).field "findings").items
    | _ => (v.field "findings").items
  | _ => []

/-- The evidence in a value: a list, or one line if it says anything. -/
def evidenceOf (v : Json) : Except NumeralError (List Text) :=
  match v with
  | .array items => items.mapM Json.display
  | .string [] => .ok []
  | .string t => .ok [t]
  | _ => .ok []

/-- Stamps a finding with the fingerprint it brought, or with one of its own. -/
def stamped (f : Finding) (brought : Text) : Finding :=
  let brought := brought.asciiLower
  { f with
    fingerprint := if Fingerprint.isFingerprint brought then brought else f.recordFingerprint }

/-- The finding that a value describes, if it has a rule and a file. -/
def ofJson (v : Json) : Except NumeralError (Option Finding) :=
  match v with
  | .object _ => do
    let rule ← (v.field "rule").displayOrEmpty
    let file ← (v.field "file").displayOrEmpty
    if rule.isEmpty || file.isEmpty then return none
    let place ← (v.field "locator").displayOrEmpty
    let evidence ← evidenceOf (v.field "finding")
    let area ← (v.field "area").displayOrEmpty
    let why ← (v.field "why").displayOrEmpty
    let suggestion ← (v.field "suggestion").displayOrEmpty
    let brought ← (v.field "fingerprint").displayOrEmpty
    let finding : Finding :=
      { rule, file, evidence, why, suggestion
        area := if area.isEmpty then defaultArea else area
        severity := (Severity.ofJson (v.field "severity")).name
        locator := if isPlace place then place else defaultLocator
        fingerprint := [] }
    return some (finding.stamped brought)
  | _ => .ok none

/-- The findings that the items of a list describe. -/
def ofItems : List Json → Except NumeralError (List Finding)
  | [] => .ok []
  | v :: rest => do
    let finding ← ofJson v
    let findings ← ofItems rest
    return finding.toList ++ findings

/-- The findings that a value describes. -/
def normalize (v : Json) : Except NumeralError (List Finding) := ofItems (listed v)

end Finding

end PatchReview
