/-
The exit code tells how grave the findings are.

A review ends with the code that its findings call for, and that depends on nothing but
which severities occur among them.  `due` says so without a gravest severity and without
ranks: it asks whether a critical or a major finding is there.  The two meet because the
running maximum is a severity that occurs and that no finding outranks, so whether some
finding reaches a severity can be asked of the maximum alone.

More findings can only make more severities occur, and no code is lower for that.  A limit
on the number of findings keeps a beginning of the list, so a higher limit does not lower
the code either.  A limit that is not above zero is none, though: going from there to a
real one takes findings away, and the code may fall.
-/
import PatchReview.Command.Review
import PatchReview.Proofs.Text.Lower

namespace PatchReview

/-! ### The gravest severity -/

namespace Severity

variable {p : Severity → Bool}

theorem ofName?_name (s : Severity) : ofName? s.name = some s := by
  cases s with
  | critical | major | minor | info => rfl

theorem major_rank_le_iff {s : Severity} : major.rank ≤ s.rank ↔ s = major ∨ s = critical := by
  cases s with
  | critical | major | minor | info => decide

theorem critical_rank_le_iff {s : Severity} : critical.rank ≤ s.rank ↔ s = critical := by
  cases s with
  | critical | major | minor | info => decide

/-- A severity that passes a test which no graver one passes is the first of all to pass it. -/
theorem find?_all {s : Severity} (hs : p s = true)
    (hgraver : ∀ t, s.rank < t.rank → p t = false) : all.find? p = some s := by
  cases s with
  | critical => simp [all, hs]
  | major => simp [all, hs, hgraver critical (by decide)]
  | minor => simp [all, hs, hgraver critical (by decide), hgraver major (by decide)]
  | info =>
      simp [all, hs, hgraver critical (by decide), hgraver major (by decide),
        hgraver minor (by decide)]

end Severity

namespace Finding

variable {findings : List Finding} {top : Option Severity} {s : Severity}

/-- What a running maximum knows of the findings so far: it is the severity of one of them, and none
of them outranks it. -/
structure Tops (top : Option Severity) (findings : List Finding) : Prop where
  occurs : ∀ s ∈ top, ∃ f ∈ findings, f.grade = s
  bounds : ∀ f ∈ findings, ∃ s ∈ top, f.grade.rank ≤ s.rank

theorem Tops.snoc (h : Tops top findings) (f : Finding) :
    Tops (graver top f.grade) (findings ++ [f]) := by
  have hlast : f ∈ findings ++ [f] := by simp
  cases top with
  | none =>
      refine ⟨fun s hs => ⟨f, hlast, Option.some.inj hs⟩, fun g hg => ?_⟩
      rcases List.mem_append.mp hg with hg | hg
      · obtain ⟨s, hs, -⟩ := h.bounds g hg
        exact absurd hs (by simp)
      · rw [List.mem_singleton.mp hg]
        exact ⟨f.grade, rfl, Nat.le_refl _⟩
  | some t =>
      rw [graver]
      split
      · rename_i hgraver
        refine ⟨fun s hs => ⟨f, hlast, Option.some.inj hs⟩, fun g hg => ⟨f.grade, rfl, ?_⟩⟩
        rcases List.mem_append.mp hg with hg | hg
        · obtain ⟨s, hs, hle⟩ := h.bounds g hg
          obtain rfl := Option.some.inj hs
          exact Nat.le_trans hle (Nat.le_of_lt hgraver)
        · obtain rfl := List.mem_singleton.mp hg
          exact Nat.le_refl _
      · rename_i hnot
        refine ⟨fun s hs => ?_, fun g hg => ?_⟩
        · obtain ⟨g, hg, hgrade⟩ := h.occurs s hs
          exact ⟨g, List.mem_append_left _ hg, hgrade⟩
        · rcases List.mem_append.mp hg with hg | hg
          · exact h.bounds g hg
          · rw [List.mem_singleton.mp hg]
            exact ⟨t, rfl, Nat.le_of_not_lt hnot⟩

theorem Tops.foldl (h : Tops top findings) (more : List Finding) :
    Tops ((more.map grade).foldl graver top) (findings ++ more) := by
  induction more generalizing top findings with
  | nil => simpa using h
  | cons f more ih =>
      rw [List.append_cons]
      exact ih (h.snoc f)

theorem tops_gravest (findings : List Finding) : Tops (gravest findings) findings := by
  have hnone : Tops none [] := ⟨by simp, by simp⟩
  exact hnone.foldl findings

theorem gravest_eq_none_iff : gravest findings = none ↔ findings = [] := by
  constructor
  · intro h
    refine List.eq_nil_iff_forall_not_mem.mpr fun f hf => ?_
    obtain ⟨s, hs, -⟩ := (tops_gravest findings).bounds f hf
    rw [h] at hs
    exact absurd hs (by simp)
  · rintro rfl
    rfl

/-- Whether some finding reaches a severity can be asked of the gravest one. -/
theorem exists_rank_le_iff {bound : Nat} :
    (∃ f ∈ findings, bound ≤ f.grade.rank) ↔ ∃ s ∈ gravest findings, bound ≤ s.rank := by
  constructor
  · rintro ⟨f, hf, hle⟩
    obtain ⟨s, hs, hbound⟩ := (tops_gravest findings).bounds f hf
    exact ⟨s, hs, Nat.le_trans hle hbound⟩
  · rintro ⟨s, hs, hle⟩
    obtain ⟨f, hf, rfl⟩ := (tops_gravest findings).occurs s hs
    exact ⟨f, hf, hle⟩

theorem exists_critical_iff :
    (∃ f ∈ findings, f.grade = .critical) ↔ ∃ s ∈ gravest findings, s = .critical := by
  simpa only [Severity.critical_rank_le_iff] using
    @exists_rank_le_iff findings Severity.critical.rank

theorem exists_major_or_critical_iff :
    (∃ f ∈ findings, f.grade = .major ∨ f.grade = .critical)
      ↔ ∃ s ∈ gravest findings, s = .major ∨ s = .critical := by
  simpa only [Severity.major_rank_le_iff] using
    @exists_rank_le_iff findings Severity.major.rank

/-- **The gravest severity is the first one that has findings.** -/
theorem gravest_eq_find? (findings : List Finding) :
    gravest findings
      = ((bySeverity findings).find? fun group => !group.2.isEmpty).map Prod.fst := by
  have htop := tops_gravest findings
  rw [bySeverity, List.find?_map, Option.map_map, Function.comp_def, Option.map_id']
  cases h : gravest findings with
  | none =>
      rw [gravest_eq_none_iff.mp h]
      rfl
  | some s =>
      rw [h] at htop
      refine (Severity.find?_all ?_ fun t ht => ?_).symm
      · simpa [ofGrade] using htop.occurs s rfl
      · simp only [Function.comp_apply, Bool.not_eq_false', List.isEmpty_iff, ofGrade,
          List.filter_eq_nil_iff, decide_eq_true_eq]
        rintro f hf rfl
        obtain ⟨s', hs', hle⟩ := htop.bounds f hf
        rw [Option.some.inj hs'] at ht
        exact absurd hle (Nat.not_le.mpr ht)

/-- There is none exactly when no severity has findings. -/
theorem gravest_eq_none_iff_bySeverity (findings : List Finding) :
    gravest findings = none ↔ ∀ group ∈ bySeverity findings, group.2 = [] := by
  rw [gravest_eq_find?, Option.map_eq_none_iff, List.find?_eq_none]
  simp

end Finding

/-! ### A word in any letter case -/

namespace FailOn

theorem ofText?_name (choice : FailOn) : ofText? choice.name = some choice := by
  cases choice with
  | never | major | critical => rfl

/-- A word is a choice in some letter case if it is that choice in small letters. -/
theorem ofText?_eq_some_iff {word : Text} {choice : FailOn} :
    ofText? word = some choice ↔ Text.lower word = choice.name := by
  have hascii : ∀ c ∈ choice.name, c.toNat < 128 ∧ c ≠ CodePoint.ofChar 'k' := by
    cases choice with
    | never | major | critical => decide
  have hself : (all.find? fun other => other.name == choice.name) = some choice := by
    cases choice with
    | never | major | critical => rfl
  exact Text.find?_asciiLower_iff hascii hself

end FailOn

/-! ### The exit code -/

namespace ExitCode

variable {findings more : List Finding} {failOn : Option Text} {choice : Option FailOn}

/-- The exit code of some findings and a word to fail on. -/
def ofFindings (findings : List Finding) (failOn : Option Text) : Except UnknownSeverity Nat :=
  of ((Finding.gravest findings).map Severity.name) failOn

/-- The code that findings call for, by the severities that occur. -/
def due (findings : List Finding) : Option FailOn → Nat
  | none =>
    if ∃ f ∈ findings, f.grade = .critical then 20
    else if ∃ f ∈ findings, f.grade = .major then 10
    else 0
  | some .never => 0
  | some .major => if ∃ f ∈ findings, f.grade = .major ∨ f.grade = .critical then 1 else 0
  | some .critical => if ∃ f ∈ findings, f.grade = .critical then 1 else 0

theorem rankOf_name (s : Severity) : rankOf s.name = .ok s.rank := by
  rw [rankOf, Severity.ofName?_name]

theorem of_none (failOn : Option Text) : of none failOn = .ok 0 := by
  cases failOn with
  | none | some word => rfl

/-- Failing on a severity compares ranks. -/
theorem of_word {word : Text} (s bound : Severity) (hbound : Text.lower word = bound.name) :
    of (some s.name) (some word) = .ok (if bound.rank ≤ s.rank then 1 else 0) := by
  have hnever : bound.name ≠ never := by
    cases bound with
    | critical | major | minor | info => decide
  simp only [of, hbound, if_neg hnever, rankOf_name]
  rfl

/-- When nothing is asked for, a major finding counts only while there is no critical one. -/
theorem due_none (findings : List Finding) :
    due findings none = if ∃ f ∈ findings, f.grade = .critical then 20
      else if ∃ f ∈ findings, f.grade = .major ∨ f.grade = .critical then 10 else 0 := by
  rw [due]
  split
  · rfl
  · rename_i hnone
    have hmajor : (∃ f ∈ findings, f.grade = .major)
        ↔ ∃ f ∈ findings, f.grade = .major ∨ f.grade = .critical := by
      constructor
      · rintro ⟨f, hf, hgrade⟩
        exact ⟨f, hf, Or.inl hgrade⟩
      · rintro ⟨f, hf, hgrade⟩
        exact ⟨f, hf, hgrade.resolve_right fun hcritical => hnone ⟨f, hf, hcritical⟩⟩
    simp only [hmajor]

theorem ofFindings_none : ofFindings findings none = .ok (due findings none) := by
  rw [due_none, ofFindings, of]
  simp only [Finding.exists_critical_iff, Finding.exists_major_or_critical_iff]
  cases Finding.gravest findings with
  | none => rfl
  | some s =>
      cases s with
      | critical | major | minor | info => rfl

theorem ofFindings_word {word : Text} {choice : FailOn} (h : FailOn.ofText? word = some choice) :
    ofFindings findings (some word) = .ok (due findings (some choice)) := by
  have hword : Text.lower word = choice.name := FailOn.ofText?_eq_some_iff.mp h
  have hempty : Finding.gravest findings = none → due findings (some choice) = 0 := by
    intro hnone
    rw [Finding.gravest_eq_none_iff.mp hnone]
    cases choice with
    | never | major | critical => rfl
  rw [ofFindings]
  cases htop : Finding.gravest findings with
  | none => rw [Option.map_none, of_none, hempty htop]
  | some s =>
      cases choice with
      | never =>
          simp only [of, hword, Option.map_some]
          rfl
      | major =>
          rw [Option.map_some, of_word s .major hword]
          simp [due, Finding.exists_major_or_critical_iff, htop, Severity.major_rank_le_iff]
      | critical =>
          rw [Option.map_some, of_word s .critical hword]
          simp [due, Finding.exists_critical_iff, htop, Severity.critical_rank_le_iff]

/-- The exit code is the one that is due, and there always is one. -/
theorem ofFindings_eq_due (h : failOn.map FailOn.ofText? = choice.map some) :
    ofFindings findings failOn = .ok (due findings choice) := by
  cases failOn with
  | none =>
      obtain rfl : choice = none := by simpa using h.symm
      exact ofFindings_none
  | some word =>
      cases choice with
      | none => simp at h
      | some choice => exact ofFindings_word (by simpa using h)

/-- What occurs among some findings occurs among more of them. -/
theorem ite_exists_mono {p : Finding → Prop} [Decidable (∃ f ∈ findings, p f)]
    [Decidable (∃ f ∈ more, p f)] (h : findings ⊆ more) {low high code : Nat} (hlow : low ≤ high)
    (hhigh : high ≤ code) :
    (if ∃ f ∈ findings, p f then code else low) ≤ if ∃ f ∈ more, p f then code else high := by
  by_cases hp : ∃ f ∈ findings, p f
  · obtain ⟨f, hf, hpf⟩ := hp
    exact Nat.le_of_eq ((if_pos ⟨f, hf, hpf⟩).trans (if_pos ⟨f, h hf, hpf⟩).symm)
  · rw [if_neg hp]
    split
    · exact Nat.le_trans hlow hhigh
    · exact hlow

/-- More findings call for no lower code. -/
theorem due_mono (h : findings ⊆ more) (choice : Option FailOn) :
    due findings choice ≤ due more choice := by
  cases choice with
  | none =>
      have hmajor : ∀ p : Prop, [Decidable p] → (if p then 10 else 0) ≤ 20 := by
        intro p _
        split
        · decide
        · decide
      rw [due_none, due_none]
      exact ite_exists_mono h (ite_exists_mono h (Nat.le_refl 0) (Nat.zero_le 10)) (hmajor _)
  | some choice =>
      cases choice with
      | never => exact Nat.le_refl 0
      | major | critical => exact ite_exists_mono h (Nat.le_refl 0) (Nat.zero_le 1)

end ExitCode

namespace ReviewArguments

open ExitCode (due ofFindings)

/-- A review ends with the code that its findings call for. -/
theorem exitCode_eq_due (review : Review) (choice : Option FailOn) :
    exitCode review choice = .ok (due review.findings choice) := by
  have hchoice : (choice.map FailOn.name).map FailOn.ofText? = choice.map some := by
    cases choice with
    | none => rfl
    | some choice => exact congrArg some (FailOn.ofText?_name choice)
  have hcode : ofFindings review.findings (choice.map FailOn.name)
      = .ok (due review.findings choice) := ExitCode.ofFindings_eq_due hchoice
  rw [exitCode, ← ofFindings, hcode]
  rfl

theorem limited_sublist (limit : Option Int) (review : Review) :
    (limited limit review).findings.Sublist review.findings := by
  cases limit with
  | none => exact List.Sublist.refl _
  | some n =>
      rw [limited]
      split
      · exact List.take_sublist _ _
      · exact List.Sublist.refl _

/-- A higher limit keeps the findings that a lower one keeps, if the lower one is a limit. -/
theorem limited_sublist_limited {low high : Int} (hlow : 0 < low) (h : low ≤ high)
    (review : Review) :
    (limited (some low) review).findings.Sublist (limited (some high) review).findings := by
  have hhigh : 0 < high := by omega
  rw [limited, limited, if_pos hlow, if_pos hhigh]
  exact (List.take_prefix_take_left (by omega)).sublist

/-- **The exit code is right and monotone.**  For every word that may be given to fail on, there is
a code and it is the one that is due; the gravest severity is the first one that has findings; and
no code is lower for more findings, nor for a higher limit in place of a lower one, nor for none. -/
theorem exitCode_monotone {failOn : Option Text} {choice : Option FailOn}
    (h : failOn.map FailOn.ofText? = choice.map some) (findings : List Finding) :
    ofFindings findings failOn = .ok (due findings choice) ∧
      Finding.gravest findings
        = ((Finding.bySeverity findings).find? fun group => !group.2.isEmpty).map Prod.fst ∧
      (Finding.gravest findings = none ↔ ∀ group ∈ Finding.bySeverity findings, group.2 = []) ∧
      (∀ more, findings.Sublist more →
        ∃ code, ofFindings more failOn = .ok code ∧ due findings choice ≤ code) ∧
      ∀ review, exitCode review choice = .ok (due review.findings choice) ∧
        (∀ limit, due (limited limit review).findings choice ≤ due review.findings choice) ∧
        ∀ low high : Int, 0 < low → low ≤ high →
          due (limited (some low) review).findings choice
            ≤ due (limited (some high) review).findings choice := by
  refine ⟨ExitCode.ofFindings_eq_due h, Finding.gravest_eq_find? findings,
    Finding.gravest_eq_none_iff_bySeverity findings, fun more hmore => ?_, fun review => ?_⟩
  · exact ⟨_, ExitCode.ofFindings_eq_due h, ExitCode.due_mono hmore.subset choice⟩
  · refine ⟨exitCode_eq_due review choice, fun limit => ?_, fun low high hlow hle => ?_⟩
    · exact ExitCode.due_mono (limited_sublist limit review).subset choice
    · exact ExitCode.due_mono (limited_sublist_limited hlow hle review).subset choice

/-- A finding of a severity. -/
def plainFinding (severity : Text) : Finding where
  rule := "r"
  area := "general"
  severity := severity
  file := "a.ts"
  locator := "L1"
  evidence := []
  why := []
  suggestion := []
  fingerprint := []

/-- A word in mixed letters, and a severity that is none and counts as minor. -/
theorem exitCode_monotone_mixed :
    let findings := [plainFinding "blocker", plainFinding "major"]
    (some ("MaJor" : Text)).map FailOn.ofText? = (some FailOn.major).map some ∧
      ofFindings findings (some "MaJor") = .ok 1 ∧
      Finding.gravest findings = some .major ∧
      exitCode { findings } (some .major) = .ok 1 := by
  intro findings
  have hword : (some ("MaJor" : Text)).map FailOn.ofText? = (some FailOn.major).map some := rfl
  obtain ⟨hcode, hgravest, -, -, hreview⟩ := exitCode_monotone hword findings
  exact ⟨hword, hcode, hgravest, (hreview { findings }).1⟩

/-- **A limit of zero is none**, so a limit of one in its place lets the code fall from 20 to 0. -/
theorem exitCode_limited_zero :
    let review : Review := { findings := [plainFinding "minor", plainFinding "critical"] }
    exitCode (limited (some 0) review) none = .ok 20 ∧
      exitCode (limited (some 1) review) none = .ok 0 := by
  exact ⟨rfl, rfl⟩

end ReviewArguments

end PatchReview
