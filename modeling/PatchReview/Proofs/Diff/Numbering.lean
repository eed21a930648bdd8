/-
What every parsed diff keeps to, however malformed its text.

The number of the last line never falls below minus one: a header sets it to one less
than its start, which is a natural number, and every other line leaves it or moves it
on.  So an added line never has a negative number.  And a header that names no path does
not open a file, so every file has one.

A path and an added line are parts of a line of the diff, and no line has a line feed in
it, so neither have they.
-/
import PatchReview.Proofs.Diff.Assembly

namespace PatchReview

/-- A file with a path, whose added lines have natural numbers. -/
structure FileDiff.Sound (file : FileDiff) : Prop where
  path : file.path ≠ []
  numbers : ∀ line ∈ file.addedLines, 0 ≤ line.number

/-- An event that can only lead to sound files. -/
def DiffEvent.Sound : DiffEvent → Prop
  | .file path => path ≠ []
  | .hunk _ => True
  | .added line => 0 ≤ line.number

/-- A step after which the numbers can still go on from zero. -/
structure DiffStep.Sound (step : DiffStep) : Prop where
  cursor : -1 ≤ step.cursor
  event : ∀ e, step.event = some e → e.Sound

namespace DiffState

variable {state : DiffState} {cursor : Int} {line previous : Text} {step : DiffStep}

theorem body_sound (hcursor : -1 ≤ cursor) (line : Text) : (body cursor line).Sound := by
  rcases body_cases cursor line with ⟨text, -, h⟩ | h | h
  · rw [h]
    refine ⟨by simp only; omega, fun e he => ?_⟩
    rw [← Option.some.inj he]
    exact (show 0 ≤ cursor + 1 by omega)
  · rw [h]
    exact ⟨by simp only; omega, by simp⟩
  · rw [h]
    exact ⟨hcursor, by simp⟩

/-- **One line keeps the numbering sound.** -/
theorem advance_sound (hcursor : -1 ≤ cursor)
    (h : advance state cursor line previous = .ok step) : step.Sound := by
  rcases advance_cases h with ⟨target, -, hpath, rfl⟩ | rfl | ⟨-, h⟩
  · refine ⟨by simp, fun e he => ?_⟩
    rw [← Option.some.inj he]
    exact hpath
  · exact ⟨by simp, by simp⟩
  · rcases advanceInside_cases h with
      ⟨-, rfl⟩ | ⟨-, hunk, -, rfl⟩ | ⟨-, -, rfl⟩ | ⟨-, -, rfl⟩
    · exact ⟨hcursor, by simp⟩
    · refine ⟨by simp only; omega, fun e he => ?_⟩
      rw [← Option.some.inj he]
      trivial
    · exact ⟨hcursor, by simp⟩
    · exact body_sound hcursor line

/-- Every step of a run is sound. -/
theorem run_sound {lines : List Text} {steps : List DiffStep} (hcursor : -1 ≤ cursor)
    (h : run state cursor previous lines = .ok steps) : ∀ step ∈ steps, step.Sound := by
  induction lines generalizing state cursor previous steps with
  | nil =>
      rw [← Except.ok.inj h]
      simp
  | cons line lines ih =>
      obtain ⟨step, hstep, h⟩ := Outcome.bind_eq_ok.mp h
      obtain ⟨rest, hrest, h⟩ := Outcome.bind_eq_ok.mp h
      have hsound := advance_sound hcursor hstep
      rw [← Outcome.pure_eq_ok.mp h]
      intro s hs
      rcases List.mem_cons.mp hs with rfl | hs
      · exact hsound
      · exact ih hsound.cursor hrest s hs

end DiffState

/-- **Every parsed file has a path and natural line numbers.** -/
theorem FileDiff.sound_of_parse {diff : Text} {files : List FileDiff}
    (h : FileDiff.parse diff = .ok files) : ∀ file ∈ files, file.Sound := by
  have hevents := FileDiff.holds_of_events (P := DiffEvent.Sound) h fun steps hsteps step hstep =>
    (DiffState.run_sound (by simp) hsteps step hstep).event
  intro file hfile
  obtain ⟨hpath, hnumbers⟩ := hevents file hfile
  exact ⟨hpath, hnumbers⟩

/-! ### Parts of lines -/

/-- A file with no line feed in its path and its added lines. -/
structure FileDiff.Unbroken (file : FileDiff) : Prop where
  path : CodePoint.lineFeed ∉ file.path
  texts : ∀ line ∈ file.addedLines, CodePoint.lineFeed ∉ line.text

/-- An event that can only lead to unbroken files. -/
def DiffEvent.Unbroken : DiffEvent → Prop
  | .file path => CodePoint.lineFeed ∉ path
  | .hunk _ => True
  | .added line => CodePoint.lineFeed ∉ line.text

/-- The path that a header names stands in the header. -/
theorem FileDiff.pathOfTarget_isInfix {line target : Text} (h : headerTarget? line = some target) :
    pathOfTarget target <:+: line := by
  have htarget : target <:+: line := by
    unfold headerTarget? at h
    cases hrest : Text.dropStart? headerMark line with
    | none => simp [hrest] at h
    | some rest =>
        have hbefore : target = Text.before CodePoint.lineFeed rest := by
          simp only [hrest] at h
          split at h
          · exact absurd h (by simp)
          · split at h
            · exact (Option.some.inj h).symm
            · exact absurd h (by simp)
        rw [hbefore]
        exact (Text.before_isPrefix _ _).isInfix.trans (Text.suffix_of_dropStart? hrest).isInfix
  exact (Text.trim_isInfix _).trans ((Text.before_isPrefix _ _).isInfix.trans htarget)

/-- A line without a line feed brings none. -/
theorem DiffState.advance_unbroken {state : DiffState} {cursor : Int} {line previous : Text}
    {step : DiffStep} (hline : CodePoint.lineFeed ∉ line)
    (h : advance state cursor line previous = .ok step) :
    ∀ event, step.event = some event → event.Unbroken := by
  rcases advance_cases h with ⟨target, htarget, -, rfl⟩ | rfl | ⟨-, h⟩
  · intro event hevent
    rw [← Option.some.inj hevent]
    exact fun hfeed => hline ((FileDiff.pathOfTarget_isInfix htarget).subset hfeed)
  · simp
  · rcases advanceInside_cases h with
      ⟨-, rfl⟩ | ⟨-, hunk, -, rfl⟩ | ⟨-, -, rfl⟩ | ⟨-, -, rfl⟩
    · simp
    · intro event hevent
      rw [← Option.some.inj hevent]
      trivial
    · simp
    · rcases body_cases cursor line with ⟨text, rfl, hbody⟩ | hbody | hbody
      · rw [hbody]
        intro event hevent
        rw [← Option.some.inj hevent]
        exact fun hfeed => hline (List.mem_cons_of_mem _ hfeed)
      · simp [hbody]
      · simp [hbody]

/-- **No parsed file has a line feed in its path or in a line.** -/
theorem FileDiff.unbroken_of_parse {diff : Text} {files : List FileDiff}
    (h : FileDiff.parse diff = .ok files) : ∀ file ∈ files, file.Unbroken := by
  have hevents := FileDiff.holds_of_events (P := DiffEvent.Unbroken) h fun steps hsteps step hstep => by
    obtain ⟨line, hline, state, cursor, previous, hadvance⟩ :=
      DiffState.exists_advance_of_mem_run hsteps step hstep
    exact DiffState.advance_unbroken (Text.noFeed_of_mem_lines line hline) hadvance
  intro file hfile
  obtain ⟨hpath, htexts⟩ := hevents file hfile
  exact ⟨hpath, htexts⟩

end PatchReview
