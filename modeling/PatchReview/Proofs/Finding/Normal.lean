/-
Findings that need no shaping.

Normalizing brings seven fields into shape, each on its own, and leaves a field alone
that is in shape already.  A finding all of whose fields are is called normal here, and
such a finding survives being written and read back: what is written for it is a string
or a list of strings at every field, a string displays as itself, and so each field
comes back as it was.  Nothing of this depends on where the finding comes from.
-/
import PatchReview.Finding.Normalize
import PatchReview.Proofs.Json.Display
import PatchReview.Proofs.Number.Decimal
import PatchReview.Proofs.Outcome
import PatchReview.Proofs.Text

namespace PatchReview

namespace Finding

/-- A finding that normalizing leaves as it is. -/
structure Normal (f : Finding) : Prop where
  rule : f.rule ≠ []
  file : f.file ≠ []
  area : f.area ≠ []
  severity : f.grade.name = f.severity
  locator : isPlace f.locator = true
  fingerprint : Fingerprint.isFingerprint f.fingerprint = true
  /-- The digits of the fingerprint are written small. -/
  small : f.fingerprint.asciiLower = f.fingerprint

/-! ### Places -/

/-- The place of a line can stand as a place. -/
theorem isPlace_line (n : Nat) : isPlace ("L" ++ Decimal.ofNat n) = true := by
  have hdigits : (Decimal.ofNat n).all CodePoint.isDigit = true :=
    List.all_eq_true.mpr Decimal.isDigit_of_mem_ofNat
  -- A numeral does not end in a line feed, so none is taken off.
  have hlast : (("L" : Text) ++ Decimal.ofNat n).getLast? ≠ some CodePoint.lineFeed := by
    rw [List.getLast?_append_of_ne_nil _ (Decimal.ofNat_ne_nil n)]
    intro hlast
    have hfeed := Decimal.isDigit_of_mem_ofNat _ (List.mem_of_getLast? hlast)
    exact absurd hfeed (by decide)
  have hline : isLinePlace ("L" ++ Decimal.ofNat n) = true := by
    rw [isLinePlace, Text.dropStart?_append]
    simp [hdigits, Decimal.ofNat_ne_nil]
  rw [isPlace, withoutFinalFeed, if_neg hlast, hline]
  rfl

/-! ### One finding -/

theorem evidenceOf_strings (texts : List Text) :
    evidenceOf (Json.strings texts) = .ok texts := by
  rw [Json.strings, evidenceOf, Json.mapM_display_strings]

/-- A fingerprint that can stand as one and is written small is kept. -/
theorem stamped_eq {f : Finding} {brought : Text} (hsmall : brought.asciiLower = brought)
    (hprint : Fingerprint.isFingerprint brought = true) :
    f.stamped brought = { f with fingerprint := brought } := by
  rw [stamped, hsmall, if_pos hprint]

/-- **A normal finding is read back as it is.** -/
theorem ofJson_toJson {f : Finding} (h : f.Normal) : ofJson f.toJson = .ok (some f) := by
  have hnamed : ¬(f.rule.isEmpty || f.file.isEmpty) = true := by simp [h.rule, h.file]
  have harea : ¬f.area.isEmpty = true := by simp [h.area]
  have hseverity : (Severity.ofJson (.string f.severity)).name = f.severity := h.severity
  rw [toJson, ofJson]
  refine Outcome.bind_eq_ok.mpr ⟨f.rule, rfl, ?_⟩
  refine Outcome.bind_eq_ok.mpr ⟨f.file, rfl, ?_⟩
  rw [if_neg hnamed]
  refine Outcome.bind_eq_ok.mpr ⟨f.locator, rfl, ?_⟩
  refine Outcome.bind_eq_ok.mpr ⟨f.evidence, evidenceOf_strings f.evidence, ?_⟩
  refine Outcome.bind_eq_ok.mpr ⟨f.area, rfl, ?_⟩
  refine Outcome.bind_eq_ok.mpr ⟨f.why, rfl, ?_⟩
  refine Outcome.bind_eq_ok.mpr ⟨f.suggestion, rfl, ?_⟩
  refine Outcome.bind_eq_ok.mpr ⟨f.fingerprint, rfl, ?_⟩
  rw [Outcome.pure_eq_ok, stamped_eq h.small h.fingerprint, if_neg harea, if_pos h.locator]
  exact congrArg (fun severity => some { f with severity }) hseverity

/-! ### Lists of findings -/

theorem ofItems_toJson {fs : List Finding} (h : ∀ f ∈ fs, f.Normal) :
    ofItems (fs.map toJson) = .ok fs := by
  induction fs with
  | nil => rfl
  | cons f fs ih =>
      rw [List.map_cons, ofItems, ofJson_toJson (h f (by simp)),
        ih fun g hg => h g (by simp [hg])]
      rfl

/-- **Normal findings are read back as they are**, with nothing dropped and in their order. -/
theorem normalize_listJson {fs : List Finding} (h : ∀ f ∈ fs, f.Normal) :
    normalize (listJson fs) = .ok fs := ofItems_toJson h

end Finding

end PatchReview
