/-
Exit codes.

A run fails with 1 when a finding reaches the severity that it was told to fail on.  When
it was told nothing, the gravest severity decides: 20 for critical, 10 for major.
-/
import PatchReview.Severity
import PatchReview.Text.Lower

namespace PatchReview

/-- A word stands where a severity has to stand. -/
structure UnknownSeverity where
  word : Text
deriving DecidableEq, Repr

namespace ExitCode

/-- The word for never failing. -/
def never : Text := "none"

/-- The rank of a word. -/
def rankOf (word : Text) : Except UnknownSeverity Nat :=
  match Severity.ofName? word with
  | none => .error ⟨word⟩
  | some severity => .ok severity.rank

/-- The code for the gravest severity when nothing else is asked for. -/
def ofGravest (top : Option Text) : Nat :=
  match top.bind Severity.ofName? with
  | some .critical => 20
  | some .major => 10
  | _ => 0

/-- The exit code for the gravest severity and the severity to fail on, in any letter case. -/
def of (top failOn : Option Text) : Except UnknownSeverity Nat :=
  match failOn with
  | none => .ok (ofGravest top)
  | some word =>
    let word := Text.lower word
    match top with
    | none => .ok 0
    | some top =>
      if word = never then .ok 0
      else do
        let found ← rankOf top
        let bound ← rankOf word
        return if bound ≤ found then 1 else 0

end ExitCode

end PatchReview
