/-
Options of a review.

Strict signals make every rule that has signals require one.  The caps bound how many
findings a rule may bring in a file and in all; a cap that is missing or zero bounds
nothing, and a cap below zero lets nothing through.
-/
import PatchReview.Finding.Basic

namespace PatchReview

/-- What a review may be told besides its policy. -/
structure ReviewOptions where
  strictSignals : Bool := false
  /-- How many findings a rule may bring in one file. -/
  capPerFile : Option Int := none
  /-- How many findings a rule may bring in all. -/
  capTotal : Option Int := none
deriving DecidableEq, Repr

namespace ReviewOptions

/-- Whether so many findings reach a cap. -/
def reached (cap : Option Int) (count : Nat) : Bool :=
  match cap with
  | none => false
  | some bound => bound ≠ 0 && bound ≤ count

/-- Keeps the findings of one rule that the caps let through; `kept` holds the files of those that
were let through before.  Once the total is reached nothing follows, while a full file only drops
its own findings. -/
def trimAfter (options : ReviewOptions) (kept : List Text) : List Finding → List Finding
  | [] => []
  | f :: rest =>
    if reached options.capTotal kept.length then []
    else if reached options.capPerFile (kept.count f.file) then trimAfter options kept rest
    else f :: trimAfter options (f.file :: kept) rest

/-- Keeps the findings of one rule that the caps let through. -/
def trim (options : ReviewOptions) (findings : List Finding) : List Finding :=
  trimAfter options [] findings

end ReviewOptions

end PatchReview
