/-
A review that is read back.

What a review finds is about an added line of its diff, and this alone makes it normal:
the path of a section is never empty, a line is located by its number, which is a natural
number, and the fingerprint is a digest.  So the findings in the envelope of a review,
whatever else stands there, are read back as they are, and a review that is compared with
itself in that way has nothing new and nothing gone.
-/
import PatchReview.Finding.Compare
import PatchReview.Proofs.Finding.Compare
import PatchReview.Proofs.Finding.Normal
import PatchReview.Proofs.Review.Anchor
import PatchReview.Report.Envelope

namespace PatchReview

/-- What has changed between two runs that are read from what was written of them. -/
def Comparison.ofWritten (current previous : Json) : Except NumeralError Comparison := do
  let current ← Finding.normalize current
  let previous ← Finding.normalize previous
  return ofRuns current previous

variable {files : List FileDiff} {line : AddedLine} {f : Finding}

/-- A path that adds a line belongs to a section, and no section has an empty one. -/
theorem FileDiff.Adds.path_ne_nil {path : Text} (hsound : ∀ file ∈ files, file.Sound)
    (h : FileDiff.Adds files path line) : path ≠ [] := by
  obtain ⟨file, hfile, rfl, -⟩ := h
  exact (hsound file hfile).path

theorem AddedLine.LocatedAt.isPlace {place : Text} (h : line.LocatedAt place) :
    Finding.isPlace place = true := by
  obtain ⟨n, -, rfl⟩ := h
  exact Finding.isPlace_line n

/-- **A finding about an added line is normal.** -/
theorem Finding.Anchored.normal (hsound : ∀ file ∈ files, file.Sound)
    (h : f.Anchored files line) : f.Normal where
  rule := h.rule
  file := h.adds.path_ne_nil hsound
  area := h.area
  severity := by
    have hall : ∀ word ∈ (["critical", "major", "minor", "info"] : List Text),
        (Severity.ofText word).name = word := by decide
    exact hall f.severity h.severity
  locator := h.place.isPlace
  fingerprint := (Fingerprint.isFingerprint_of_digits h.fingerprint.1 h.fingerprint.2).1
  small := (Fingerprint.isFingerprint_of_digits h.fingerprint.1 h.fingerprint.2).2

namespace Review

variable {diff : Text} {document boundaries : Json} {options : ReviewOptions} {review : Review}

/-- Whatever a review finds is normal, be it by the rules or by the boundaries. -/
theorem normal_of_mem_findings [Host] (h : ofDiff diff document boundaries options = .ok review) :
    ∀ f ∈ review.findings, f.Normal := by
  obtain ⟨files, set, policy, ruled, bounded, hfiles, hset, -, hruled, hbounded, hfindings⟩ :=
    ofDiff_eq_ok h
  have hsound := FileDiff.sound_of_parse hfiles
  intro f hf
  rw [hfindings, List.mem_append] at hf
  rcases hf with hf | hf
  · obtain ⟨line, hanchored, -⟩ := anchored_of_mem_ruled hsound hset hruled f hf
    exact hanchored.normal hsound
  · obtain ⟨line, hanchored, -⟩ := anchored_of_mem_bounded hsound hbounded f hf
    exact hanchored.normal hsound

/-- The findings in an envelope are those that were put there, if they are normal. -/
theorem normalize_envelope (h : ∀ f ∈ review.findings, f.Normal) (info : RunInfo) :
    Finding.normalize (review.envelope info) = .ok review.findings :=
  Finding.normalize_listJson h

/-- **A review is read back as it is**, whenever and from whatever it was written, and compared
with itself it shows no change. -/
theorem ofDiff_read_back [Host] (h : ofDiff diff document boundaries options = .ok review) :
    (∀ info, Finding.normalize (review.envelope info) = .ok review.findings) ∧
      ∀ info info', Comparison.ofWritten (review.envelope info) (review.envelope info')
        = .ok { added := [], removed := [], unchanged := review.findings } := by
  have hread := normalize_envelope (normal_of_mem_findings h)
  refine ⟨hread, fun info info' => ?_⟩
  rw [Comparison.ofWritten, hread info, hread info', ← Comparison.ofRuns_self review.findings]
  rfl

theorem ofDiff_read_back_mixed :
    ∃ review, ofDiff RulePass.mixedDiff RulePass.mixedRules mixedBoundaries {} = .ok review ∧
      review.findings.length = 2 ∧
      (∀ info, Finding.normalize (review.envelope info) = .ok review.findings) ∧
      ∀ info info', Comparison.ofWritten (review.envelope info) (review.envelope info')
        = .ok { added := [], removed := [], unchanged := review.findings } := by
  obtain ⟨review, h, hfindings, -⟩ := exists_mixed
  exact ⟨review, h, hfindings, ofDiff_read_back h⟩

end Review

end PatchReview
