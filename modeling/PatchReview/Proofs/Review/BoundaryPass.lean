/-
The boundary pass, said without its steps.

Every added line of every section is looked at, and every rule that the import on it
breaks has a finding there: sections, lines and rules are nested without anything being
left out or stopped early.
-/
import PatchReview.Proofs.Finding.Evidence
import PatchReview.Proofs.Review.Run

namespace PatchReview

namespace BoundaryPass

/-- The finding of a boundary rule on a line that imports a module. -/
def findingOn (rules : Option RuleSet) (path specifier : Text) (line : AddedLine)
    (boundary : BoundaryRule) : Finding :=
  Finding.make boundary.findingRule (boundary.grading rules).1 (boundary.grading rules).2.name path
    (Finding.placeOf line.number)
    ["[" ++ Finding.placeOf line.number ++ "] Forbidden import per boundaries: "
      ++ ([Import.backquote] ++ specifier ++ [Import.backquote])]
    boundary.reason "Import through an allowed adapter/port or public API."

/-- The findings on a line. -/
def findingsOn (boundaries : Boundaries) (rules : Option RuleSet) (path : Text) (line : AddedLine) :
    List Finding :=
  match Import.specifier? line.text with
  | none => []
  | some specifier =>
    (boundaries.broken (Text.slashed path) specifier).map (findingOn rules path specifier line)

/-- **All findings of the boundaries, enumerated.** -/
def findings (boundaries : Boundaries) (rules : Option RuleSet) (files : List FileDiff) :
    List Finding :=
  files.flatMap fun file => file.addedLines.flatMap (findingsOn boundaries rules file.path)

variable {boundaries : Boundaries} {rules : Option RuleSet}

theorem finding_eq_ok {boundary : BoundaryRule} {path specifier : Text} {line : AddedLine}
    {f : Finding} (h : boundary.finding rules path specifier line = .ok f) :
    f = findingOn rules path specifier line boundary := by
  obtain ⟨place, hplace, h⟩ := Outcome.bind_eq_ok.mp h
  rw [← Outcome.pure_eq_ok.mp h, Finding.lineLocator_eq_ok hplace]
  rfl

theorem findingsOn_eq_ok {path : Text} {line : AddedLine} {fs : List Finding}
    (h : boundaries.findingsOn rules path line = .ok fs) :
    fs = findingsOn boundaries rules path line := by
  unfold Boundaries.findingsOn at h
  rw [findingsOn]
  cases hs : Import.specifier? line.text with
  | none =>
      rw [hs] at h
      exact (Except.ok.inj h).symm
  | some specifier =>
      rw [hs] at h
      exact Outcome.mapM_eq_map h fun boundary _ f hf => finding_eq_ok hf

theorem findingsIn_eq_ok {file : FileDiff} {fs : List Finding}
    (h : boundaries.findingsIn rules file = .ok fs) :
    fs = file.addedLines.flatMap (findingsOn boundaries rules file.path) := by
  obtain ⟨parts, hparts, h⟩ := Outcome.bind_eq_ok.mp h
  rw [← Outcome.pure_eq_ok.mp h, Outcome.mapM_eq_map hparts fun _ _ _ hf => findingsOn_eq_ok hf,
    ← List.flatMap_def]

/-- **The boundary pass is its enumeration.** -/
theorem findings_eq_ok {files : List FileDiff} {fs : List Finding}
    (h : boundaries.findings rules files = .ok fs) : fs = findings boundaries rules files := by
  obtain ⟨parts, hparts, h⟩ := Outcome.bind_eq_ok.mp h
  rw [← Outcome.pure_eq_ok.mp h, Outcome.mapM_eq_map hparts fun _ _ _ hf => findingsIn_eq_ok hf,
    ← List.flatMap_def]
  rfl

/-- Every finding is on an added line, about an import on it that some rule forbids. -/
theorem exists_of_mem_findings {files : List FileDiff} {f : Finding}
    (h : f ∈ findings boundaries rules files) :
    ∃ file ∈ files, ∃ line ∈ file.addedLines, ∃ specifier boundary,
      Import.specifier? line.text = some specifier ∧
        f = findingOn rules file.path specifier line boundary := by
  obtain ⟨file, hfile, h⟩ := List.mem_flatMap.mp h
  obtain ⟨line, hline, h⟩ := List.mem_flatMap.mp h
  rw [findingsOn] at h
  cases hs : Import.specifier? line.text with
  | none => simp [hs] at h
  | some specifier =>
      rw [hs] at h
      obtain ⟨boundary, -, rfl⟩ := List.mem_map.mp h
      exact ⟨file, hfile, line, hline, specifier, boundary, hs, rfl⟩

end BoundaryPass

end PatchReview
