/-
What a finding says of its line.

A numeral beyond the limit is refused, so a place or a line of evidence may not come
about.  If it does, it is the one that the number and the text of the line determine,
and these are named here so that whole findings can be written down.
-/
import PatchReview.Finding.Evidence
import PatchReview.Proofs.Outcome

namespace PatchReview

namespace Finding

/-- The place of a line by its number. -/
def placeOf (number : Int) : Text := "L" ++ Decimal.ofInt number

/-- A line of evidence that quotes a text. -/
def quotation (number : Int) (text message : Text) : Text :=
  "[" ++ placeOf number ++ "] " ++ message ++ ": \"" ++ clipped text ++ "\""

theorem lineLocator_eq_ok {number : Int} {t : Text} (h : lineLocator number = .ok t) :
    t = placeOf number := by
  obtain ⟨digits, hdigits, ht⟩ := Outcome.bind_eq_ok.mp h
  rw [Decimal.write] at hdigits
  split at hdigits
  · rw [← Outcome.pure_eq_ok.mp ht, ← Except.ok.inj hdigits, placeOf]
  · exact absurd hdigits (by simp)

theorem evidenceLine_eq_ok {number : Int} {text message t : Text}
    (h : evidenceLine number text message = .ok t) : t = quotation number text message := by
  obtain ⟨place, hplace, ht⟩ := Outcome.bind_eq_ok.mp h
  rw [← Outcome.pure_eq_ok.mp ht, lineLocator_eq_ok hplace, quotation]

end Finding

end PatchReview
