/-
Normalizing settles findings, and so does the gate.

Normalizing brings every finding into a shape that it leaves alone: a field that was
displayed is a text from then on, a place and a fingerprint are such as pass their tests,
and a fingerprint that was made up, being a digest, passes for one that was brought.  So
the findings of any value are normal, and in whichever of the three forms they are handed
in again they come back as they are.

The gate normalizes and then decides finding by finding, and its answer on one depends
neither on the others nor on what it has dropped.  What it lets pass once it lets pass
again.
-/
import PatchReview.Diff.Assembly
import PatchReview.Proofs.Finding.Canonical
import PatchReview.Review.Gate

namespace PatchReview

theorem CodePoint.asciiLower_asciiLower (c : CodePoint) :
    c.asciiLower.asciiLower = c.asciiLower := by
  unfold CodePoint.asciiLower
  by_cases hcapital : 65 ≤ c.toNat ∧ c.toNat ≤ 90
  · rw [dif_pos hcapital, dif_neg]
    simp only
    omega
  · rw [dif_neg hcapital, dif_neg hcapital]

theorem Text.asciiLower_asciiLower (t : Text) : t.asciiLower.asciiLower = t.asciiLower := by
  simp [Text.asciiLower, CodePoint.asciiLower_asciiLower]

namespace Finding

/-! ### Normalizing -/

/-- **Whatever an item says, the finding that is read from it is normal.** -/
theorem ReadFrom.normal {v : Json} {f : Finding} (h : ReadFrom v f) : f.Normal := by
  have hprint : Fingerprint.isFingerprint f.fingerprint = true ∧
      f.fingerprint.asciiLower = f.fingerprint := by
    obtain ⟨brought, said, -, hf⟩ := h.fingerprint
    rw [hf]
    by_cases hok : Fingerprint.isFingerprint brought.asciiLower = true
    · rw [if_pos hok]
      exact ⟨hok, Text.asciiLower_asciiLower brought⟩
    · rw [if_neg hok]
      obtain ⟨hlength, hdigits⟩ := Fingerprint.ofText_digits said
      exact Fingerprint.isFingerprint_of_digits hlength hdigits
  refine ⟨h.rule, h.file, h.area, ?_, ?_, hprint.1, hprint.2⟩
  · obtain ⟨s, hs⟩ := h.severity
    rw [grade, hs]
    cases s <;> rfl
  · obtain ⟨place, -, hplace⟩ := h.locator
    rw [hplace]
    by_cases hok : isPlace place = true
    · rw [if_pos hok, hok]
    · rw [if_neg hok]
      decide

theorem normal_of_normalize {raw : Json} {fs : List Finding} (h : normalize raw = .ok fs) :
    ∀ f ∈ fs, f.Normal := by
  intro f hf
  obtain ⟨v, -, hread⟩ := exists_of_mem_ofItems h f hf
  exact (readFrom_of_ofJson hread).normal

end Finding

/-! ### The gate -/

namespace Gate

/-- **What the gate lets pass it lets pass again.** -/
theorem kept_kept [Host] {raw rules : Json} {files : List FileDiff} {fs : List Finding}
    (h : kept raw files rules = .ok fs) : kept (Finding.listJson fs) files rules = .ok fs := by
  obtain ⟨set, hset, h⟩ := Outcome.bind_eq_ok.mp h
  obtain ⟨found, hfound, h⟩ := Outcome.bind_eq_ok.mp h
  obtain ⟨admitted, rfl, hadmits⟩ := Outcome.filterM_eq_filter h
  have hnormal : ∀ f ∈ found.filter admitted, f.Normal := fun f hf =>
    Finding.normal_of_normalize (Outcome.mapError_eq_ok.mp hfound) f (List.mem_of_mem_filter hf)
  refine Outcome.bind_eq_ok.mpr ⟨set, hset, ?_⟩
  rw [Finding.normalize_listJson hnormal]
  refine Outcome.bind_eq_ok.mpr ⟨_, rfl, ?_⟩
  rw [filter, Outcome.filterM_eq_ok fun f hf => hadmits f (List.mem_of_mem_filter hf),
    List.filter_filter]
  simp only [Bool.and_self]

end Gate

namespace Finding

/-- **Normalizing and the gate settle findings.**  The findings of any value come back as they are
when they are handed in again, as a list, under `findings` or in an envelope, and what passes the
gate passes it again. -/
theorem normalize_settles [Host] :
    (∀ (raw : Json) (fs : List Finding), normalize raw = .ok fs →
      normalize (listJson fs) = .ok fs ∧
      normalize (.object [("findings", listJson fs)]) = .ok fs ∧
      normalize (.object [("ai_review", .object [("findings", listJson fs)])]) = .ok fs) ∧
    ∀ (raw rules : Json) (files : List FileDiff) (fs : List Finding),
      Gate.kept raw files rules = .ok fs → Gate.kept (listJson fs) files rules = .ok fs := by
  refine ⟨fun raw fs h => ?_, fun raw rules files fs h => Gate.kept_kept h⟩
  have hread : normalize (listJson fs) = .ok fs := normalize_listJson (normal_of_normalize h)
  exact ⟨hread, hread, hread⟩

/-- A diff with one of the two files that `looseItems` names. -/
def looseDiff : Text := "+++ b/b.ts\n@@ -1 +1 @@\n+x"

/-- A document with one of the two rules. -/
def looseRules : Json := .object [("rules", .array [.object [("id", .string "r")]])]

/-- Of three items two are findings, and one of them passes the gate. -/
theorem normalize_settles_loose :
    ∃ fs files passed, normalize looseItems = .ok fs ∧ fs.length = 2 ∧
      FileDiff.parse looseDiff = .ok files ∧
      Gate.kept looseItems files looseRules = .ok passed ∧ passed.length = 1 ∧
      (normalize (listJson fs) = .ok fs ∧
        normalize (.object [("findings", listJson fs)]) = .ok fs ∧
        normalize (.object [("ai_review", .object [("findings", listJson fs)])]) = .ok fs) ∧
      Gate.kept (listJson passed) files looseRules = .ok passed := by
  obtain ⟨fs, hfs, htwo⟩ : ∃ fs, normalize looseItems = .ok fs ∧ fs.length = 2 :=
    Outcome.exists_ok_of_toOption (by decide +kernel)
  obtain ⟨files, hfiles, hone⟩ : ∃ files, FileDiff.parse looseDiff = .ok files ∧
      ((Gate.kept looseItems files looseRules).toOption.map List.length) = some 1 :=
    Outcome.exists_ok_of_toOption (by decide +kernel)
  obtain ⟨passed, hpassed, hlength⟩ := Outcome.exists_ok_of_toOption hone
  exact ⟨fs, files, passed, hfs, htwo, hfiles, hpassed, hlength, normalize_settles.1 _ _ hfs,
    normalize_settles.2 _ _ _ _ hpassed⟩

end Finding

end PatchReview
