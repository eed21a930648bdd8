/-
Two diffs, one behind the other.

A diff may end anywhere: in a hunk, in a file without hunks, with the header of an old
side that a header of the new side could follow.  None of it matters to a diff behind it
whose first line that could matter is the header of a file.  The lines in front of that
line bring nothing wherever the reader stands, and the header itself moves the reader to
the same place from everywhere.  So the lines of the second diff come to the same files
from every place, and reading the first diff in front of them adds its own files.
-/
import PatchReview.Proofs.Diff.Rendering

namespace PatchReview

open CodePoint (lineFeed carriageReturn)

/-! ### Lines in front of lines -/

namespace Gathered

variable {state : DiffState} {cursor : Int} {previous : Text} {front rest : List Text}

/-- What was gathered, with the files of later lines behind it. -/
def before (g : Gathered) (files : List FileDiff) : Gathered := { g with files := g.files ++ files }

/-- Later files stay behind whatever a step puts in front. -/
theorem prepend_before (step : DiffStep) (g : Gathered) (files : List FileDiff) :
    prepend step (g.before files) = (prepend step g).before files := by
  unfold prepend
  cases step.event with
  | none =>
      by_cases hseeking : step.state = .seeking
      · simp only [if_pos hseeking]
        rfl
      · simp only [if_neg hseeking]
  | some event => cases event <;> rfl

/-- **Lines are read in front of lines that come to files alone**, and put their own files first. -/
theorem ofLines_before {g : Gathered} {files : List FileDiff} (hrest : Written.ComesTo rest files)
    (h : ofLines state cursor previous front = .ok g) :
    ofLines state cursor previous (front ++ rest) = .ok (g.before files) := by
  induction front generalizing state cursor previous g with
  | nil =>
      obtain rfl : {} = g := Except.ok.inj h
      exact hrest state cursor previous
  | cons line front ih =>
      obtain ⟨step, behind, hstep, hbehind, rfl⟩ := ofLines_cons_eq_ok.mp h
      rw [List.cons_append, ofLines_cons_eq_ok]
      exact ⟨step, behind.before files, hstep, ih hbehind, prepend_before step behind files⟩

/-- Lines that are read behind others are read from the place to which those lead. -/
theorem exists_ofLines_of_append {g : Gathered}
    (h : ofLines state cursor previous (front ++ rest) = .ok g) :
    ∃ state' cursor' previous' behind, ofLines state' cursor' previous' rest = .ok behind := by
  induction front generalizing state cursor previous g with
  | nil => exact ⟨state, cursor, previous, g, h⟩
  | cons line front ih =>
      obtain ⟨step, behind, -, hbehind, -⟩ := ofLines_cons_eq_ok.mp h
      exact ih hbehind

end Gathered

/-! ### The header of a file -/

/-- A header of the new side under `b/` leads to one place, wherever the reader stands: into its file
or, if it names no path, outside every file. -/
theorem DiffState.exists_advance_of_target {line target : Text}
    (h : FileDiff.headerTarget? line = some target) :
    ∃ step, (∀ g, Gathered.prepend step g = { files := (Gathered.prepend step g).files }) ∧
      ∀ state cursor previous, advance state cursor line previous = .ok step := by
  by_cases hpath : (FileDiff.pathOfTarget target).isEmpty = true
  · refine ⟨{ state := .seeking, cursor := 0 }, fun _ => rfl, fun state cursor previous => ?_⟩
    simp [advance, h, hpath]
  · refine ⟨{ state := .inFile, cursor := 0, event := some (.file (FileDiff.pathOfTarget target)) },
      fun _ => rfl, fun state cursor previous => ?_⟩
    simp [advance, h, hpath]

/-- **From the header of a file on, lines come to the same files** wherever the reader stands. -/
theorem Gathered.exists_comesTo_of_target {line target : Text} {rest : List Text} {g : Gathered}
    {state : DiffState} {cursor : Int} {previous : Text}
    (htarget : FileDiff.headerTarget? line = some target)
    (h : ofLines state cursor previous (line :: rest) = .ok g) :
    ∃ files, Written.ComesTo (line :: rest) files := by
  obtain ⟨opened, hfiles, hadvance⟩ := DiffState.exists_advance_of_target htarget
  obtain ⟨step, behind, hstep, hbehind, -⟩ := ofLines_cons_eq_ok.mp h
  obtain rfl : opened = step := Except.ok.inj ((hadvance state cursor previous).symm.trans hstep)
  refine ⟨(prepend opened behind).files, fun state cursor previous => ?_⟩
  exact ofLines_cons_eq_ok.mpr
    ⟨opened, behind, hadvance state cursor previous, hbehind, hfiles behind⟩

namespace FileDiff

variable {a b : Text} {before after : List FileDiff}

/-! ### Whole diffs -/

/-- Whether a line starts as an added line, a header of the new side or the header of a hunk does. -/
def mayMatter (line : Text) : Bool := line.startsWith "+" || line.startsWith "@@ -"

/-- A diff whose first line that may matter, if there is one, is the header of a file. -/
def OpensWithFile (diff : Text) : Prop :=
  ∀ line ∈ diff.lines.find? mayMatter, ∃ target, target ≠ [] ∧ line = headerMark ++ target

theorem passedIn_of_not_mayMatter (state : DiffState) {line : Text} (h : mayMatter line = false) :
    Written.PassedIn state line := by
  obtain ⟨hplus, hhunk⟩ := Bool.or_eq_false_iff.mp h
  exact Written.passedIn_of_quiet state hplus hhunk

/-- **A diff that opens with a file comes to its files from every place.** -/
theorem comesTo_of_parse (hopens : OpensWithFile b) (h : parse b = .ok after) :
    Written.ComesTo b.lines after := by
  obtain ⟨g, hg, rfl⟩ := parse_eq_ok.mp h
  suffices hfiles : ∃ files, Written.ComesTo b.lines files by
    obtain ⟨files, hfiles⟩ := hfiles
    obtain rfl : { files } = g := Except.ok.inj ((hfiles .seeking 0 []).symm.trans hg)
    exact hfiles
  cases hfirst : b.lines.find? mayMatter with
  | none =>
      have hquiet : ∀ line ∈ b.lines, mayMatter line = false := by
        simpa using List.find?_eq_none.mp hfirst
      refine ⟨[], fun state cursor previous => ?_⟩
      have hend : ∀ cursor previous, Gathered.ofLines state cursor previous [] = .ok {} :=
        fun _ _ => rfl
      have hpassed := Written.ofLines_passed (fun _ => rfl) hend b.lines cursor previous
        fun line hline => passedIn_of_not_mayMatter state (hquiet line hline)
      rwa [List.append_nil] at hpassed
  | some header =>
      obtain ⟨-, quiet, rest, hlines, hquiet⟩ := List.find?_eq_some_iff_append.mp hfirst
      obtain ⟨target, hne, htarget⟩ := hopens header hfirst
      have hfeed : lineFeed ∉ target := fun hmem =>
        Text.noFeed_of_mem_lines header (by rw [hlines]; simp) (by rw [htarget]; simp [hmem])
      rw [hlines] at hg ⊢
      obtain ⟨_, _, _, _, hheader⟩ := Gathered.exists_ofLines_of_append hg
      obtain ⟨files, hfiles⟩ := Gathered.exists_comesTo_of_target
        (htarget ▸ headerTarget?_mark hne hfeed) hheader
      refine ⟨files, fun state cursor previous => ?_⟩
      exact Written.ofLines_passed (fun _ => rfl) (hfiles state) quiet cursor previous
        fun line hline => passedIn_of_not_mayMatter state (by simpa using hquiet line hline)

/-- **A diff behind a diff is read as if it stood alone**, and so is the diff in front of it. -/
theorem parse_append (hreturn : a.getLast? ≠ some carriageReturn) (hopens : OpensWithFile b)
    (ha : parse a = .ok before) (hb : parse b = .ok after) :
    parse (a ++ lineFeed :: b) = .ok (before ++ after) := by
  obtain ⟨g, hg, rfl⟩ := parse_eq_ok.mp ha
  rw [parse_eq_ok, Text.lines_append hreturn]
  exact ⟨g.before after, Gathered.ofLines_before (comesTo_of_parse hopens hb) hg, rfl⟩

/-- The first diff ends in a hunk, with a line that looks like the header of an old side.  The second
one starts with a line that would be kept there, and its file comes twice. -/
theorem parse_append_openHunk :
    let a : Text := "+++ b/a\n@@ -1 +1 @@\n x\n+y\n--- z"
    let b : Text := " w\n--- a/c\n+++ b/c\n@@ -0,0 +1 @@\n+v\n+++ b/a"
    a.getLast? ≠ some carriageReturn ∧ OpensWithFile b ∧
      ∃ before after, parse a = .ok before ∧ parse b = .ok after ∧ before.length = 1 ∧
        after.length = 2 ∧ parse (a ++ lineFeed :: b) = .ok (before ++ after) := by
  intro a b
  have hreturn : a.getLast? ≠ some carriageReturn := by decide
  have hopens : OpensWithFile b := by
    have hfirst : b.lines.find? mayMatter = some "+++ b/c" := by decide +kernel
    intro line hline
    obtain rfl : Text.ofString "+++ b/c" = line := Option.some.inj (hfirst.symm.trans hline)
    exact ⟨"c", by decide, by decide⟩
  have hbefore : (parse a).toOption.map List.length = some 1 := by decide +kernel
  have hafter : (parse b).toOption.map List.length = some 2 := by decide +kernel
  obtain ⟨before, ha, hlength⟩ := Outcome.exists_ok_of_toOption hbefore
  obtain ⟨after, hb, hlength'⟩ := Outcome.exists_ok_of_toOption hafter
  exact ⟨hreturn, hopens, before, after, ha, hb, hlength, hlength',
    parse_append hreturn hopens ha hb⟩

end FileDiff

end PatchReview
