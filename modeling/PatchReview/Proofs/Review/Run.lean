/-
A whole review, taken apart.

A review reads the diff and the rules, applies the rules, reads the boundaries and holds
the imports against them.  That it comes to a result says that each of these did, and
what the result is made of.
-/
import PatchReview.Proofs.Outcome
import PatchReview.Review.Run

namespace PatchReview

namespace Review

/-- The findings of the boundaries; without a document there are none. -/
def boundaryFindings (boundaries : Option Boundaries) (rules : Option RuleSet)
    (files : List FileDiff) : Except NumeralError (List Finding) :=
  match boundaries with
  | none => .ok []
  | some boundaries => boundaries.findings rules files

variable [Host] {diff : Text} {document boundaries : Json} {options : ReviewOptions}
  {review : Review}

theorem byRules_eq_ok :
    byRules diff document options = .ok review ↔
      ∃ files set, FileDiff.parse diff = .ok files ∧ RuleSet.ofJson document = .ok set ∧
        ofRules options set files = .ok review := by
  simp only [byRules, parsed, Outcome.bind_eq_ok, Outcome.mapError_eq_ok]
  constructor
  · rintro ⟨files, hfiles, set, hset, h⟩
    exact ⟨files, set, hfiles, hset, h⟩
  · rintro ⟨files, set, hfiles, hset, h⟩
    exact ⟨files, hfiles, set, hset, h⟩

/-- **The findings of the rules come first, those of the boundaries behind them.** -/
theorem ofDiff_eq_ok (h : ofDiff diff document boundaries options = .ok review) :
    ∃ files set policy ruled bounded, FileDiff.parse diff = .ok files ∧
      RuleSet.ofJson document = .ok set ∧ Boundaries.ofJson boundaries = .ok policy ∧
      ofRules options set files = .ok { findings := ruled, tasks := review.tasks } ∧
      boundaryFindings policy set files = .ok bounded ∧ review.findings = ruled ++ bounded := by
  obtain ⟨files, hfiles, h⟩ := Outcome.bind_eq_ok.mp h
  obtain ⟨set, hset, h⟩ := Outcome.bind_eq_ok.mp h
  obtain ⟨pass, hpass, h⟩ := Outcome.bind_eq_ok.mp h
  obtain ⟨policy, hpolicy, h⟩ := Outcome.bind_eq_ok.mp h
  have hfiles := Outcome.mapError_eq_ok.mp hfiles
  have hset := Outcome.mapError_eq_ok.mp hset
  have hpolicy := Outcome.mapError_eq_ok.mp hpolicy
  cases policy with
  | none =>
      rw [← Outcome.pure_eq_ok.mp h]
      exact ⟨files, set, none, pass.findings, [], hfiles, hset, hpolicy, hpass, rfl,
        (List.append_nil _).symm⟩
  | some policy =>
      obtain ⟨bounded, hbounded, h⟩ := Outcome.bind_eq_ok.mp h
      rw [← Outcome.pure_eq_ok.mp h]
      exact ⟨files, set, some policy, pass.findings, bounded, hfiles, hset, hpolicy, hpass,
        Outcome.mapError_eq_ok.mp hbounded, rfl⟩

/-- A review is made of what its steps come to. -/
theorem ofDiff_of_parts {files : List FileDiff} {set : Option RuleSet} {policy : Option Boundaries}
    {ruled : Review} {bounded : List Finding} (hfiles : FileDiff.parse diff = .ok files)
    (hset : RuleSet.ofJson document = .ok set) (hpolicy : Boundaries.ofJson boundaries = .ok policy)
    (hruled : ofRules options set files = .ok ruled)
    (hbounded : boundaryFindings policy set files = .ok bounded) :
    ofDiff diff document boundaries options
      = .ok { ruled with findings := ruled.findings ++ bounded } := by
  unfold ofDiff parsed
  rw [hfiles, hset, hpolicy]
  simp only [Except.mapError, bind, Except.bind, hruled]
  cases policy with
  | none =>
      rw [← Except.ok.inj hbounded, List.append_nil]
      rfl
  | some policy =>
      simp only [show policy.findings set files = .ok bounded from hbounded]
      rfl

/-- A review whose steps come to results comes to one itself. -/
theorem exists_ofDiff_eq_ok {files : List FileDiff} {set : Option RuleSet}
    {policy : Option Boundaries} (hfiles : FileDiff.parse diff = .ok files)
    (hset : RuleSet.ofJson document = .ok set) (hpolicy : Boundaries.ofJson boundaries = .ok policy)
    (hruled : ∃ ruled, ofRules options set files = .ok ruled)
    (hbounded : ∃ bounded, boundaryFindings policy set files = .ok bounded) :
    ∃ review, ofDiff diff document boundaries options = .ok review := by
  obtain ⟨ruled, hruled⟩ := hruled
  obtain ⟨bounded, hbounded⟩ := hbounded
  exact ⟨_, ofDiff_of_parts hfiles hset hpolicy hruled hbounded⟩

end Review

end PatchReview
