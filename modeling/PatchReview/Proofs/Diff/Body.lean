/-
The lines of a hunk and their numbers.

The reader carries one number through a diff, and every line of a hunk may move it.  What
it comes to can be said without the reader: behind the header of a hunk stand the lines
of its body, up to the line with which the hunk ends, and a line of the body that starts
with a plus is added under the start of the hunk plus the number of lines of the new side
that stand before it in the body.  Those are the lines that start with a plus or a space
and the empty ones.  All else may be left out of a body: removed lines, remarks, headers
that are no headers there.

The invariant is that in a hunk the number carried is one less than that of the next line
of the new side.
-/
import PatchReview.Proofs.Diff.Assembly

namespace PatchReview

/-! ### Bodies -/

namespace Hunk

/-- Whether a line of a body stands in the new file: it is added, or kept, or empty. -/
def onNewSide (line : Text) : Bool := line.startsWith "+" || line.startsWith " " || line.isEmpty

/-- What a line of a body adds. -/
def addition? (line : Text) : Option Text := Text.dropStart? "+" line

/-- The added lines of a body, each numbered by the lines of the new side before it. -/
def additions (start : Int) (body : List Text) : List AddedLine :=
  body.zipIdx.filterMap fun item =>
    (addition? item.1).map fun text => ⟨start + (body.take item.2).countP onNewSide, text⟩

variable {start : Int} {line : Text} {body : List Text}

@[simp] theorem additions_nil : additions start [] = [] := rfl

/-- A line of the new side moves the numbers of the lines behind it on by one. -/
theorem additions_cons (start : Int) (line : Text) (body : List Text) :
    additions start (line :: body)
      = ((addition? line).map fun text => ⟨start, text⟩).toList
        ++ additions (start + if onNewSide line then 1 else 0) body := by
  have hbehind : ∀ i : Nat, start + (line :: body.take i).countP onNewSide
      = start + (if onNewSide line then 1 else 0) + (body.take i).countP onNewSide := by
    intro i
    rw [List.countP_cons]
    split <;> (push_cast; omega)
  rw [additions, List.zipIdx_cons', List.filterMap_cons, List.filterMap_map]
  simp only [Function.comp_def, Prod.map_fst, Prod.map_snd, id_eq, List.take_succ_cons, hbehind]
  cases addition? line <;> simp [additions]

/-- No line is numbered below the start. -/
theorem le_of_mem_additions {l : AddedLine} (h : l ∈ additions start body) : start ≤ l.number := by
  obtain ⟨⟨line, i⟩, -, hadded⟩ := List.mem_filterMap.mp h
  obtain ⟨text, -, rfl⟩ := Option.map_eq_some_iff.mp hadded
  simp only
  omega

/-- An added line stands on the new side. -/
theorem onNewSide_of_addition? {text : Text} (h : addition? line = some text) :
    onNewSide line = true := by
  have hplus : line.startsWith "+" = true :=
    Text.startsWith_iff.mpr ⟨text, (Text.eq_append_of_dropStart? h).symm⟩
  simp [onNewSide, hplus]

/-- **The numbers rise from line to line.** -/
theorem pairwise_additions (start : Int) (body : List Text) :
    ((additions start body).map AddedLine.number).Pairwise (· < ·) := by
  induction body generalizing start with
  | nil => exact .nil
  | cons line body ih =>
      rw [additions_cons]
      cases hline : addition? line with
      | none => exact ih _
      | some text =>
          rw [if_pos (onNewSide_of_addition? hline)]
          refine List.pairwise_cons.mpr ⟨fun n hn => ?_, ih (start + 1)⟩
          obtain ⟨l, hl, rfl⟩ := List.mem_map.mp hn
          have hle := le_of_mem_additions hl
          simp only
          omega

/-- **Only the lines of the new side matter**: all others may be left out of a body. -/
theorem additions_filter (start : Int) (body : List Text) :
    additions start (body.filter onNewSide) = additions start body := by
  induction body generalizing start with
  | nil => rfl
  | cons line body ih =>
      cases hside : onNewSide line with
      | true => rw [List.filter_cons_of_pos hside, additions_cons, additions_cons, ih]
      | false =>
          have hnone : addition? line = none := by
            cases hline : addition? line with
            | none => rfl
            | some text => exact absurd (onNewSide_of_addition? hline) (by simp [hside])
          rw [List.filter_cons_of_neg (by simp [hside]), additions_cons, hnone, hside, ih]
          simp

end Hunk

/-! ### Hunks among the lines of a diff -/

/-- A hunk as it stands in a diff. -/
structure HunkLines where
  header : Text
  body : List Text
deriving DecidableEq

namespace HunkLines

/-- The lines up to the one with which a hunk ends: it opens another hunk or a file, or leads out of
every file. -/
def bodyOf (read : List (Text × DiffStep)) : List Text :=
  (read.takeWhile fun line => !line.2.endsHunk).map Prod.fst

theorem bodyOf_of_endsHunk {step : DiffStep} (h : step.endsHunk = true) (line : Text)
    (behind : List (Text × DiffStep)) : bodyOf ((line, step) :: behind) = [] := by
  simp [bodyOf, h]

theorem bodyOf_of_inHunk {step : DiffStep} (h : step.endsHunk = false) (line : Text)
    (behind : List (Text × DiffStep)) :
    bodyOf ((line, step) :: behind) = line :: bodyOf behind := by
  simp [bodyOf, h]

/-- The hunk that the first of some lines opens, each line given with what the reader did at it. -/
def at? : List (Text × DiffStep) → Option HunkLines
  | [] => none
  | (header, step) :: behind =>
    if step.hunk?.isSome then some ⟨header, bodyOf behind⟩ else none

/-- The hunks that some lines open. -/
def among (read : List (Text × DiffStep)) : List HunkLines := read.tails.filterMap at?

theorem among_cons (header : Text) (step : DiffStep) (behind : List (Text × DiffStep)) :
    among ((header, step) :: behind)
      = (if step.hunk?.isSome then [⟨header, bodyOf behind⟩] else []) ++ among behind := by
  rw [among, List.tails_cons, List.filterMap_cons, at?]
  cases step.hunk? <;> rfl

/-- The numbering of a hunk that was read from these lines. -/
structure Numbers (lines : HunkLines) (hunk : Hunk) : Prop where
  /-- The header opens the hunk, with the numbers that stand in it. -/
  opened : Hunk.ofHeader? lines.header = .ok (some hunk.opened)
  /-- The lines of the body that start with a plus are added, each numbered by the lines of the new
  side before it. -/
  added : hunk.added = Hunk.additions hunk.newStart lines.body
  /-- No number is below the start of the hunk, which is a natural number. -/
  bounded : ∀ line ∈ hunk.added, hunk.newStart ≤ line.number
  /-- The numbers rise from line to line. -/
  increasing : (hunk.added.map AddedLine.number).Pairwise (· < ·)
  /-- Lines that do not stand in the new file shift no number. -/
  unshifted : hunk.added = Hunk.additions hunk.newStart (lines.body.filter Hunk.onNewSide)

/-- All of it follows from the header and the first law. -/
theorem numbers_of_added {lines : HunkLines} {hunk : Hunk}
    (hopened : Hunk.ofHeader? lines.header = .ok (some hunk.opened))
    (hadded : hunk.added = Hunk.additions hunk.newStart lines.body) : Numbers lines hunk where
  opened := hopened
  added := hadded
  bounded := fun line hline => Hunk.le_of_mem_additions (hadded ▸ hline)
  increasing := by
    rw [hadded]
    exact Hunk.pairwise_additions _ _
  unshifted := by rw [hadded, Hunk.additions_filter]

end HunkLines

/-! ### The reader -/

namespace DiffState

variable {state : DiffState} {cursor : Int} {line previous : Text} {step : DiffStep}
  {lines : List Text} {steps : List DiffStep}

theorem length_of_run (h : run state cursor previous lines = .ok steps) :
    steps.length = lines.length := by
  induction lines generalizing state cursor previous steps with
  | nil =>
      rw [← Except.ok.inj h]
      rfl
  | cons line lines ih =>
      obtain ⟨step, -, h⟩ := Outcome.bind_eq_ok.mp h
      obtain ⟨rest, hrest, h⟩ := Outcome.bind_eq_ok.mp h
      rw [← Outcome.pure_eq_ok.mp h, List.length_cons, List.length_cons, ih hrest]

/-- A line that does not end a hunk is a line of its body. -/
theorem advance_of_inHunk (h : advance .inHunk cursor line previous = .ok step)
    (hstays : step.endsHunk = false) : step = body cursor line := by
  rcases advance_cases h with ⟨target, -, -, rfl⟩ | rfl | ⟨-, h⟩
  · exact absurd (show true = false from hstays) (by simp)
  · exact absurd (show true = false from hstays) (by simp)
  · rcases advanceInside_cases h with
      ⟨hstate, -⟩ | ⟨-, hunk, -, rfl⟩ | ⟨hstate, -⟩ | ⟨-, -, hbody⟩
    · exact absurd hstate (by simp)
    · exact absurd (show true = false from hstays) (by simp)
    · exact absurd hstate (by simp)
    · exact hbody

/-- **What one line of a body does.**  The next number moves on with a line of the new side, and a
plus adds a line under the number so far. -/
theorem body_spec (cursor : Int) (line : Text) :
    (body cursor line).state = .inHunk ∧
      (body cursor line).cursor = cursor + (if Hunk.onNewSide line then 1 else 0) ∧
      (body cursor line).added?
        = (Hunk.addition? line).map fun text => ⟨cursor + 1, text⟩ := by
  cases line with
  | nil => exact ⟨rfl, rfl, rfl⟩
  | cons c text =>
      by_cases hplus : c = CodePoint.ofChar '+'
      · subst hplus
        exact ⟨rfl, rfl, rfl⟩
      have haddition : Hunk.addition? (c :: text) = none := if_neg (Ne.symm hplus)
      by_cases hspace : c = CodePoint.ofChar ' '
      · subst hspace
        exact ⟨rfl, rfl, rfl⟩
      · have hside : Hunk.onNewSide (c :: text) = false := by
          have hstart : ∀ d : CodePoint, c ≠ d → Text.startsWith (c :: text) [d] = false :=
            fun d hd => by simp [Text.startsWith, List.isPrefixOf, hd.symm]
          rw [Hunk.onNewSide, Bool.or_assoc]
          exact Bool.or_eq_false_iff.mpr
            ⟨hstart _ hplus, Bool.or_eq_false_iff.mpr ⟨hstart _ hspace, rfl⟩⟩
        have hbody : body cursor (c :: text) = { state := .inHunk, cursor } := by
          rw [body, if_neg hplus, if_neg hspace]
        rw [hbody, haddition, hside]
        exact ⟨rfl, (Int.add_zero cursor).symm, rfl⟩

/-- **The lines of a hunk are those of its body**, numbered on from where the reader stands. -/
theorem linesBehind_of_run (h : run .inHunk cursor previous lines = .ok steps) :
    DiffStep.linesBehind steps
      = Hunk.additions (cursor + 1) (HunkLines.bodyOf (lines.zip steps)) := by
  induction lines generalizing cursor previous steps with
  | nil =>
      rw [← Except.ok.inj h]
      rfl
  | cons line lines ih =>
      obtain ⟨step, hstep, h⟩ := Outcome.bind_eq_ok.mp h
      obtain ⟨rest, hrest, h⟩ := Outcome.bind_eq_ok.mp h
      rw [← Outcome.pure_eq_ok.mp h, List.zip_cons_cons]
      cases hends : step.endsHunk with
      | true => rw [DiffStep.linesBehind_of_endsHunk hends, HunkLines.bodyOf_of_endsHunk hends,
          Hunk.additions_nil]
      | false =>
          obtain rfl := advance_of_inHunk hstep hends
          obtain ⟨hstate, hcursor, hadded⟩ := body_spec cursor line
          rw [hstate] at hrest
          rw [DiffStep.linesBehind_of_inHunk hends, HunkLines.bodyOf_of_inHunk hends,
            Hunk.additions_cons, hadded, ih hrest, hcursor, Int.add_right_comm]

/-- A step that opens a hunk has read its header and stands right before its first line. -/
theorem advance_of_hunk? {hunk : Hunk} (h : advance state cursor line previous = .ok step)
    (hopens : step.hunk? = some hunk) :
    Hunk.ofHeader? line = .ok (some hunk) ∧ step.state = .inHunk ∧
      step.cursor = hunk.newStart - 1 := by
  rcases advance_cases h with ⟨target, -, -, rfl⟩ | rfl | ⟨-, h⟩
  · exact absurd hopens (by simp [DiffStep.hunk?])
  · exact absurd hopens (by simp [DiffStep.hunk?])
  · rcases advanceInside_cases h with
      ⟨-, rfl⟩ | ⟨-, opened, hopened, rfl⟩ | ⟨-, -, rfl⟩ | ⟨-, -, rfl⟩
    · exact absurd hopens (by simp [DiffStep.hunk?])
    · obtain rfl : opened = hunk := Option.some.inj hopens
      exact ⟨hopened, rfl, rfl⟩
    · exact absurd hopens (by simp [DiffStep.hunk?])
    · rcases body_cases cursor line with ⟨text, -, hbody⟩ | hbody | hbody <;>
        exact absurd hopens (by simp [hbody, DiffStep.hunk?])

/-- **Every hunk that a run opens is numbered by its lines.** -/
theorem numbers_of_run (h : run state cursor previous lines = .ok steps) :
    List.Forall₂ HunkLines.Numbers (HunkLines.among (lines.zip steps))
      (DiffStep.hunksAmong steps) := by
  induction lines generalizing state cursor previous steps with
  | nil =>
      rw [← Except.ok.inj h]
      exact .nil
  | cons line lines ih =>
      obtain ⟨step, hstep, h⟩ := Outcome.bind_eq_ok.mp h
      obtain ⟨rest, hrest, h⟩ := Outcome.bind_eq_ok.mp h
      rw [← Outcome.pure_eq_ok.mp h, List.zip_cons_cons, HunkLines.among_cons,
        DiffStep.hunksAmong_cons]
      have hbehind := ih hrest
      cases hopens : step.hunk? with
      | none => exact hbehind
      | some hunk =>
          obtain ⟨hheader, hstate, hcursor⟩ := advance_of_hunk? hstep hopens
          obtain ⟨-, -, -, hnew⟩ := Hunk.exists_of_ofHeader? hheader
          rw [hstate] at hrest
          have hlines := linesBehind_of_run hrest
          rw [hcursor, Int.sub_add_cancel] at hlines
          refine .cons (HunkLines.numbers_of_added ?_ hlines) hbehind
          rw [hheader, Hunk.opened, ← hnew]

end DiffState

namespace FileDiff

variable {diff : Text} {files : List FileDiff}

/-- **Line numbers are right in every diff.**  The hunks of a parsed diff are those that its lines
open, one for each and in order, and the lines of each are numbered as its body says. -/
theorem hunks_numbered (h : parse diff = .ok files) :
    ∃ steps, DiffState.run .seeking 0 [] diff.lines = .ok steps ∧
      steps.length = diff.lines.length ∧
      List.Forall₂ HunkLines.Numbers (HunkLines.among (diff.lines.zip steps))
        (files.flatMap hunks) := by
  obtain ⟨steps, hsteps, hsuccession, rfl⟩ := exists_steps_of_parse h
  refine ⟨steps, hsteps, DiffState.length_of_run hsteps, ?_⟩
  have hall := DiffStep.hunksAmong_eq hsuccession
  rw [DiffStep.hunksBehind_of_seeking hsuccession, List.nil_append] at hall
  rw [Gathered.ofSteps_eq hsuccession, ← hall]
  exact DiffState.numbers_of_run hsteps

/-- A hunk that starts at zero, with a line that looks like a header of the new side, a removed line,
an empty one, a remark, a broken hunk header and a header of a tool in its body, and a second hunk
behind it. -/
def untidyDiff : Text :=
  "+++ b/a\n@@ -1 +0,9 @@\n x\n+++ y\n-z\n\n\\ No newline\n@@ -1 @@\ndiff --git a b\n+v\n"
    ++ "@@ -9 +7 @@\n+w"

theorem hunks_numbered_untidy :
    ∃ files, parse untidyDiff = .ok files ∧
      (files.flatMap hunks).map Hunk.added = [[⟨1, "++ y"⟩, ⟨3, "v"⟩], [⟨7, "w"⟩]] ∧
      ∃ steps, DiffState.run .seeking 0 [] untidyDiff.lines = .ok steps ∧
        steps.length = untidyDiff.lines.length ∧
        List.Forall₂ HunkLines.Numbers (HunkLines.among (untidyDiff.lines.zip steps))
          (files.flatMap hunks) := by
  have hadded : (parse untidyDiff).toOption.map (fun files : List FileDiff =>
      (files.flatMap hunks).map Hunk.added)
        = some [[⟨1, "++ y"⟩, ⟨3, "v"⟩], [⟨7, "w"⟩]] := by decide +kernel
  obtain ⟨files, hfiles, hadded⟩ := Outcome.exists_ok_of_toOption hadded
  exact ⟨files, hfiles, hadded, hunks_numbered hfiles⟩

end FileDiff

end PatchReview
