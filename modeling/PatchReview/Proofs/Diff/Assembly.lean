/-
The files of a diff account for every step of its reader.

`FileDiff.parse` gathers steps from the last one backwards.  The same files can be named
without any order of work: a file for each step that opens one, with the hunks opened
until the file ends, and a hunk for each step that opens one, with the lines added until
the hunk ends.  They also come of going through the steps from the first one on, with one
file and one hunk open at a time, which is how one would put a diff together by hand.

What makes the three agree is that the state of the reader says what is open.  `Follows`
lists what a step can be after a state: a hunk is opened only in a file, a line is added
only in a hunk, and no other step than one out of every file closes what is open.  So no
step ever finds the place closed where it belongs, and nothing is lost.
-/
import Mathlib.Data.List.Infix
import Mathlib.Data.List.TakeWhile
import PatchReview.Proofs.Diff.Steps

namespace PatchReview

/-! ### What a step opens, adds and ends -/

namespace DiffStep

/-- The path of the file that a step opens. -/
def file? (step : DiffStep) : Option Text :=
  match step.event with
  | some (.file path) => some path
  | _ => none

/-- The hunk that a step opens. -/
def hunk? (step : DiffStep) : Option Hunk :=
  match step.event with
  | some (.hunk hunk) => some hunk
  | _ => none

/-- The line that a step adds. -/
def added? (step : DiffStep) : Option AddedLine :=
  match step.event with
  | some (.added line) => some line
  | _ => none

theorem file?_eq_some {step : DiffStep} {path : Text} :
    step.file? = some path ↔ step.event = some (.file path) := by
  unfold file?
  cases step.event with
  | none => simp
  | some event => cases event <;> simp

theorem added?_eq_some {step : DiffStep} {line : AddedLine} :
    step.added? = some line ↔ step.event = some (.added line) := by
  unfold added?
  cases step.event with
  | none => simp
  | some event => cases event <;> simp

/-- A file ends with the step that opens another one or leaves the reader outside every file. -/
def endsFile (step : DiffStep) : Bool := step.file?.isSome || step.state = .seeking

/-- A hunk ends with the step that opens another one, and with its file. -/
def endsHunk (step : DiffStep) : Bool := step.hunk?.isSome || step.endsFile

theorem endsFile_of_open {state : DiffState} (hopen : state ≠ .seeking) (cursor : Int) :
    endsFile { state, cursor } = false := by
  simp [endsFile, file?, hopen]

theorem endsHunk_of_open {state : DiffState} (hopen : state ≠ .seeking) (cursor : Int) :
    endsHunk { state, cursor } = false := by
  rw [endsHunk, endsFile_of_open hopen]
  rfl

/-- What a step can be after a state of the reader. -/
inductive Follows : DiffState → DiffStep → Prop
  /-- A file is opened anywhere. -/
  | file {state : DiffState} (cursor : Int) (path : Text) :
      Follows state { state := .inFile, cursor, event := some (.file path) }
  /-- A hunk is opened in a file, and has no lines yet. -/
  | hunk {state : DiffState} (hopen : state ≠ .seeking) (cursor : Int) (hunk : Hunk)
      (hnew : hunk.added = []) :
      Follows state { state := .inHunk, cursor, event := some (.hunk hunk) }
  /-- A line is added in a hunk. -/
  | added (cursor : Int) (line : AddedLine) :
      Follows .inHunk { state := .inHunk, cursor, event := some (.added line) }
  /-- The file is left from anywhere. -/
  | left {state : DiffState} (cursor : Int) : Follows state { state := .seeking, cursor }
  /-- In a file a step may bring nothing. -/
  | kept {state : DiffState} (hopen : state ≠ .seeking) (cursor : Int) :
      Follows state { state, cursor }

/-- Steps of which the first follows a state, and each one the state of the step before it. -/
inductive Succession : DiffState → List DiffStep → Prop
  | nil {state : DiffState} : Succession state []
  | cons {state : DiffState} {step : DiffStep} {rest : List DiffStep}
      (first : Follows state step) (behind : Succession step.state rest) :
      Succession state (step :: rest)

end DiffStep

namespace DiffState

open DiffStep (Follows Succession)

variable {state : DiffState} {cursor : Int} {line previous : Text}

/-- **A line moves the reader to a step that can follow its state.** -/
theorem advance_follows {step : DiffStep} (h : advance state cursor line previous = .ok step) :
    Follows state step := by
  rcases advance_cases h with ⟨target, -, -, rfl⟩ | rfl | ⟨-, h⟩
  · exact .file 0 _
  · exact .left 0
  · rcases advanceInside_cases h with
      ⟨rfl, rfl⟩ | ⟨hopen, hunk, hhunk, rfl⟩ | ⟨rfl, -, rfl⟩ | ⟨rfl, -, rfl⟩
    · exact .left cursor
    · obtain ⟨-, -, -, hnew⟩ := Hunk.exists_of_ofHeader? hhunk
      exact .hunk hopen _ hunk hnew
    · exact .kept (by simp) cursor
    · rcases body_cases cursor line with ⟨text, -, hbody⟩ | hbody | hbody
      · rw [hbody]
        exact .added _ _
      · rw [hbody]
        exact .kept (by simp) _
      · rw [hbody]
        exact .kept (by simp) _

/-- The steps of a run follow one another. -/
theorem run_succession {lines : List Text} {steps : List DiffStep}
    (h : run state cursor previous lines = .ok steps) : Succession state steps := by
  induction lines generalizing state cursor previous steps with
  | nil =>
      rw [← Except.ok.inj h]
      exact .nil
  | cons line lines ih =>
      obtain ⟨step, hstep, h⟩ := Outcome.bind_eq_ok.mp h
      obtain ⟨rest, hrest, h⟩ := Outcome.bind_eq_ok.mp h
      rw [← Outcome.pure_eq_ok.mp h]
      exact .cons (advance_follows hstep) (ih hrest)

end DiffState

/-! ### The enumeration -/

namespace DiffStep

/-- The lines added before a hunk ends. -/
def linesBehind (steps : List DiffStep) : List AddedLine :=
  (steps.takeWhile fun step => !step.endsHunk).filterMap added?

/-- The hunk that the first of some steps opens, with the lines added behind it. -/
def hunkAt : List DiffStep → Option Hunk
  | [] => none
  | step :: behind => step.hunk?.map fun hunk => { hunk with added := linesBehind behind }

/-- The hunks that some steps open. -/
def hunksAmong (steps : List DiffStep) : List Hunk := steps.tails.filterMap hunkAt

/-- The hunks opened before a file ends. -/
def hunksBehind (steps : List DiffStep) : List Hunk :=
  hunksAmong (steps.takeWhile fun step => !step.endsFile)

/-- The file that the first of some steps opens, with the hunks opened behind it. -/
def fileAt : List DiffStep → Option FileDiff
  | [] => none
  | step :: behind => step.file?.map fun path => { path, hunks := hunksBehind behind }

/-- **The files that some steps open.** -/
def filesAmong (steps : List DiffStep) : List FileDiff := steps.tails.filterMap fileAt

variable {state : DiffState} {step : DiffStep} {steps : List DiffStep}

theorem hunksAmong_cons (step : DiffStep) (steps : List DiffStep) :
    hunksAmong (step :: steps)
      = (step.hunk?.map fun hunk => { hunk with added := linesBehind steps }).toList
        ++ hunksAmong steps := by
  rw [hunksAmong, List.tails_cons, List.filterMap_cons, hunkAt]
  cases step.hunk? <;> rfl

theorem filesAmong_cons (step : DiffStep) (steps : List DiffStep) :
    filesAmong (step :: steps)
      = (step.file?.map fun path => { path, hunks := hunksBehind steps }).toList
        ++ filesAmong steps := by
  rw [filesAmong, List.tails_cons, List.filterMap_cons, fileAt]
  cases step.file? <;> rfl

theorem linesBehind_of_endsHunk (h : step.endsHunk = true) :
    linesBehind (step :: steps) = [] := by
  simp [linesBehind, h]

theorem linesBehind_of_inHunk (h : step.endsHunk = false) :
    linesBehind (step :: steps) = step.added?.toList ++ linesBehind steps := by
  rw [linesBehind, List.takeWhile_cons_of_pos (by simp [h]), List.filterMap_cons]
  cases step.added? <;> rfl

theorem hunksBehind_of_endsFile (h : step.endsFile = true) :
    hunksBehind (step :: steps) = [] := by
  simp [hunksBehind, hunksAmong, hunkAt, h]

/-- Where a file ends its last hunk ends too. -/
theorem linesBehind_takeWhile (steps : List DiffStep) :
    linesBehind (steps.takeWhile fun step => !step.endsFile) = linesBehind steps := by
  rw [linesBehind, linesBehind, List.takeWhile_takeWhile]
  congr 2
  funext step
  by_cases h : step.endsFile = true
  · simp [endsHunk, h]
  · cases hhunk : step.hunk? <;> simp [endsHunk, h, hhunk]

theorem hunksBehind_of_inFile (h : step.endsFile = false) :
    hunksBehind (step :: steps)
      = (step.hunk?.map fun hunk => { hunk with added := linesBehind steps }).toList
        ++ hunksBehind steps := by
  rw [hunksBehind, List.takeWhile_cons_of_pos (by simp [h]), hunksAmong_cons,
    linesBehind_takeWhile]
  rfl

end DiffStep

namespace Gathered

open DiffStep

/-- **Gathering steps from the last one is the enumeration.** -/
theorem ofSteps_eq {state : DiffState} {steps : List DiffStep} (h : Succession state steps) :
    ofSteps steps
      = { added := linesBehind steps, hunks := hunksBehind steps, files := filesAmong steps } := by
  induction h with
  | nil => rfl
  | @cons state step rest first behind ih =>
      have hprepend : ofSteps (step :: rest) = prepend step (ofSteps rest) := rfl
      rw [hprepend, ih, filesAmong_cons]
      cases first with
      | file cursor path =>
          rw [linesBehind_of_endsHunk rfl, hunksBehind_of_endsFile rfl]
          rfl
      | hunk hopen cursor hunk hnew =>
          rw [linesBehind_of_endsHunk rfl, hunksBehind_of_inFile rfl]
          rfl
      | added cursor line =>
          rw [linesBehind_of_inHunk rfl, hunksBehind_of_inFile rfl]
          rfl
      | left cursor =>
          rw [linesBehind_of_endsHunk rfl, hunksBehind_of_endsFile rfl]
          rfl
      | kept hopen cursor =>
          rw [linesBehind_of_inHunk (endsHunk_of_open hopen cursor),
            hunksBehind_of_inFile (endsFile_of_open hopen cursor), prepend]
          simp only [if_neg hopen]
          rfl

end Gathered

/-! ### Nothing is lost -/

/-- A hunk as its header opens it. -/
def Hunk.opened (hunk : Hunk) : Hunk := { hunk with added := [] }

namespace DiffStep

variable {state : DiffState} {steps : List DiffStep}

/-- Outside every file no hunk is opened before a file is. -/
theorem hunksBehind_of_seeking (h : Succession .seeking steps) : hunksBehind steps = [] := by
  cases h with
  | nil => rfl
  | cons first behind =>
      cases first with
      | file | left => exact hunksBehind_of_endsFile rfl
      | hunk hopen | kept hopen => exact absurd rfl hopen

/-- Outside every hunk no line is added before a hunk is opened. -/
theorem linesBehind_of_ne_inHunk (h : Succession state steps) (hstate : state ≠ .inHunk) :
    linesBehind steps = [] := by
  induction h with
  | nil => rfl
  | @cons state step rest first behind ih =>
      cases first with
      | file | left | hunk => exact linesBehind_of_endsHunk rfl
      | added => exact absurd rfl hstate
      | kept hopen cursor =>
          rw [linesBehind_of_inHunk (endsHunk_of_open hopen cursor), ih hstate]
          rfl

/-- **Every added line is behind exactly one opening**, and the lines keep their order. -/
theorem filterMap_added? (h : Succession state steps) :
    steps.filterMap added?
      = linesBehind steps ++ (hunksBehind steps).flatMap Hunk.added
        ++ (filesAmong steps).flatMap FileDiff.addedLines := by
  induction h with
  | nil => rfl
  | @cons state step rest first behind ih =>
      rw [List.filterMap_cons, ih, filesAmong_cons]
      cases first with
      | file cursor path =>
          rw [linesBehind_of_ne_inHunk behind (by simp), linesBehind_of_endsHunk rfl,
            hunksBehind_of_endsFile rfl]
          rfl
      | hunk hopen cursor hunk hnew =>
          rw [linesBehind_of_endsHunk rfl, hunksBehind_of_inFile rfl]
          simp [added?, hunk?, file?]
      | added cursor line =>
          rw [linesBehind_of_inHunk rfl, hunksBehind_of_inFile rfl]
          rfl
      | left cursor =>
          rw [linesBehind_of_ne_inHunk behind (by simp), hunksBehind_of_seeking behind,
            linesBehind_of_endsHunk rfl, hunksBehind_of_endsFile rfl]
          rfl
      | kept hopen cursor =>
          rw [linesBehind_of_inHunk (endsHunk_of_open hopen cursor),
            hunksBehind_of_inFile (endsFile_of_open hopen cursor)]
          rfl

/-- **Every hunk is behind exactly one opening of a file**, and the hunks keep their order. -/
theorem hunksAmong_eq (h : Succession state steps) :
    hunksAmong steps = hunksBehind steps ++ (filesAmong steps).flatMap FileDiff.hunks := by
  induction h with
  | nil => rfl
  | @cons state step rest first behind ih =>
      rw [hunksAmong_cons, ih, filesAmong_cons]
      cases first with
      | file cursor path =>
          rw [hunksBehind_of_endsFile rfl]
          rfl
      | hunk hopen cursor hunk hnew =>
          rw [hunksBehind_of_inFile rfl]
          rfl
      | added cursor line =>
          rw [hunksBehind_of_inFile rfl]
          rfl
      | left cursor =>
          rw [hunksBehind_of_seeking behind, hunksBehind_of_endsFile rfl]
          rfl
      | kept hopen cursor =>
          rw [hunksBehind_of_inFile (endsFile_of_open hopen cursor)]
          rfl

/-- A step that opens a hunk brings the hunk that is there in the end, still without lines. -/
theorem filterMap_hunk? (h : Succession state steps) :
    steps.filterMap hunk? = (hunksAmong steps).map Hunk.opened := by
  induction h with
  | nil => rfl
  | @cons state step rest first behind ih =>
      rw [List.filterMap_cons, ih, hunksAmong_cons]
      cases first with
      | hunk hopen cursor hunk hnew =>
          have hopened : Hunk.opened { hunk with added := linesBehind rest } = hunk := by
            rw [Hunk.opened, ← hnew]
          simp [hunk?, hopened]
      | file | added | left | kept => rfl

theorem filterMap_file? (steps : List DiffStep) :
    steps.filterMap file? = (filesAmong steps).map FileDiff.path := by
  induction steps with
  | nil => rfl
  | cons step rest ih =>
      rw [List.filterMap_cons, filesAmong_cons, List.map_append, ← ih]
      cases step.file? <;> rfl

end DiffStep

/-! ### Going through the steps -/

/-- What is open while the steps are gone through. -/
inductive OpenPlace
  /-- Nothing is open. -/
  | outside
  /-- A file, with the hunks that have ended. -/
  | inFile (file : FileDiff)
  /-- A hunk of a file, with the lines so far. -/
  | inHunk (file : FileDiff) (hunk : Hunk)

namespace OpenPlace

/-- Where the reader stands if this is open. -/
def state : OpenPlace → DiffState
  | outside => .seeking
  | inFile _ => .inFile
  | inHunk _ _ => .inHunk

/-- The open file with what is still to come: the lines and hunks at the front of `g`. -/
def ended (g : Gathered) : OpenPlace → List FileDiff
  | outside => []
  | inFile file => [{ file with hunks := file.hunks ++ g.hunks }]
  | inHunk file hunk =>
    [{ file with hunks := file.hunks ++ { hunk with added := hunk.added ++ g.added } :: g.hunks }]

end OpenPlace

/-- A diff that is put together step by step. -/
structure Assembly where
  /-- The files that have ended. -/
  finished : List FileDiff := []
  place : OpenPlace := .outside

namespace Assembly

open DiffStep (Follows Succession)

/-- All files, with what is still to come. -/
def ended (a : Assembly) (g : Gathered) : List FileDiff := a.finished ++ a.place.ended g ++ g.files

/-- The files so far. -/
def files (a : Assembly) : List FileDiff := a.ended {}

/-- Takes up one step.  A hunk needs a file that is open and a line needs a hunk: a step that finds
its place closed is not taken up. -/
def take? (a : Assembly) (step : DiffStep) : Option Assembly :=
  match step.event with
  | some (.file path) => some { finished := a.files, place := .inFile { path } }
  | some (.hunk hunk) =>
    match a.place with
    | .outside => none
    | .inFile file => some { a with place := .inHunk file hunk }
    | .inHunk file last =>
      some { a with place := .inHunk { file with hunks := file.hunks ++ [last] } hunk }
  | some (.added line) =>
    match a.place with
    | .inHunk file hunk =>
      some { a with place := .inHunk file { hunk with added := hunk.added ++ [line] } }
    | _ => none
  | none => if step.state = .seeking then some { finished := a.files } else some a

/-- Where no line and no hunk is still to come, what is open has ended already. -/
theorem ended_files (a : Assembly) (files : List FileDiff) :
    a.ended { files } = a.files ++ files := by
  have hplace : a.place.ended { files } = a.place.ended {} := by cases a.place <;> rfl
  rw [ended, hplace, Assembly.files, ended, List.append_nil]

variable {a : Assembly} {step : DiffStep}

/-- **The state of the reader says what is open**, so a step that can follow it is taken up, and what
it brings is where it would be gathered. -/
theorem exists_take?_eq_some (h : Follows a.place.state step) :
    ∃ b, a.take? step = some b ∧ b.place.state = step.state ∧
      ∀ g, b.ended g = a.ended (g.prepend step) := by
  obtain ⟨finished, place⟩ := a
  generalize hstate : place.state = state at h
  cases h with
  | file cursor path =>
      refine ⟨_, rfl, rfl, fun g => ?_⟩
      have hprepend : g.prepend ⟨.inFile, cursor, some (.file path)⟩
          = { files := { path, hunks := g.hunks } :: g.files } := rfl
      rw [hprepend, ended_files, ended, List.append_assoc]
      rfl
  | hunk hopen cursor hunk hnew =>
      have hprepend : ∀ g : Gathered, g.prepend ⟨.inHunk, cursor, some (.hunk hunk)⟩
          = { hunks := { hunk with added := g.added } :: g.hunks, files := g.files } := fun _ => rfl
      cases place with
      | outside => exact absurd hstate.symm hopen
      | inFile file =>
          refine ⟨_, rfl, rfl, fun g => ?_⟩
          rw [hprepend]
          simp [ended, OpenPlace.ended, hnew]
      | inHunk file last =>
          refine ⟨_, rfl, rfl, fun g => ?_⟩
          rw [hprepend]
          simp [ended, OpenPlace.ended, hnew]
  | added cursor line =>
      cases place with
      | outside | inFile => exact absurd hstate (by simp [OpenPlace.state])
      | inHunk file hunk =>
          refine ⟨_, rfl, rfl, fun g => ?_⟩
          simp [ended, OpenPlace.ended, Gathered.prepend]
  | left cursor =>
      refine ⟨_, rfl, rfl, fun g => ?_⟩
      have hprepend : g.prepend ⟨.seeking, cursor, none⟩ = { files := g.files } := rfl
      rw [hprepend, ended_files, ended]
      simp [OpenPlace.ended]
  | kept hopen cursor =>
      refine ⟨⟨finished, place⟩, ?_, hstate, fun g => ?_⟩
      · simp [take?, hopen]
      · simp [Gathered.prepend, hopen]

/-- **Going through steps that follow one another takes all of them up**, and ends with the files
that gathering the steps comes to. -/
theorem exists_foldlM_take?_eq_some {steps : List DiffStep} (h : Succession a.place.state steps) :
    ∃ b, steps.foldlM take? a = some b ∧ b.files = a.ended (Gathered.ofSteps steps) := by
  -- For every `a`, since each step changes what is open; the steps left are what is still to come.
  induction steps generalizing a with
  | nil => exact ⟨a, rfl, rfl⟩
  | cons step rest ih =>
      cases h with
      | cons first behind =>
          obtain ⟨b, hb, hstate, hended⟩ := exists_take?_eq_some first
          obtain ⟨c, hc, hfiles⟩ := ih (hstate ▸ behind)
          refine ⟨c, ?_, hfiles.trans (hended _)⟩
          rw [List.foldlM_cons, hb]
          exact hc

end Assembly

namespace FileDiff

variable {diff : Text} {files : List FileDiff}

/-- A parsed diff comes of the steps of its reader, which follow one another. -/
theorem exists_steps_of_parse (h : parse diff = .ok files) :
    ∃ steps, DiffState.run .seeking 0 [] diff.lines = .ok steps ∧
      DiffStep.Succession .seeking steps ∧ files = (Gathered.ofSteps steps).files := by
  obtain ⟨steps, hsteps, hfiles⟩ := Outcome.bind_eq_ok.mp h
  exact ⟨steps, hsteps, DiffState.run_succession hsteps, (Outcome.pure_eq_ok.mp hfiles).symm⟩

/-- **What a parsed diff holds, a step has brought.**  If every event of the reader has a property, so
have the paths of the files and their added lines. -/
theorem holds_of_events {P : DiffEvent → Prop} (h : parse diff = .ok files)
    (hevents : ∀ steps, DiffState.run .seeking 0 [] diff.lines = .ok steps →
      ∀ step ∈ steps, ∀ event, step.event = some event → P event) :
    ∀ file ∈ files, P (.file file.path) ∧ ∀ line ∈ file.addedLines, P (.added line) := by
  obtain ⟨steps, hsteps, hsuccession, rfl⟩ := exists_steps_of_parse h
  have hevents := hevents steps hsteps
  rw [Gathered.ofSteps_eq hsuccession]
  intro file hfile
  refine ⟨?_, fun line hline => ?_⟩
  · have hpath : file.path ∈ steps.filterMap DiffStep.file? := by
      rw [DiffStep.filterMap_file?]
      exact List.mem_map_of_mem hfile
    obtain ⟨step, hstep, hpath⟩ := List.mem_filterMap.mp hpath
    exact hevents step hstep _ (DiffStep.file?_eq_some.mp hpath)
  · have hadded : line ∈ steps.filterMap DiffStep.added? := by
      rw [DiffStep.filterMap_added? hsuccession]
      exact List.mem_append_right _ (List.mem_flatMap.mpr ⟨file, hfile, hline⟩)
    obtain ⟨step, hstep, hadded⟩ := List.mem_filterMap.mp hadded
    exact hevents step hstep _ (DiffStep.added?_eq_some.mp hadded)

/-- **A parsed diff accounts for every step of its reader.**  Its files are those that the steps
open, with the hunks opened until the file ends and the lines added until the hunk ends.  All paths,
hunks and added lines of the steps are there, once and in order; and whoever goes through the steps
with one file and one hunk open takes every one of them up and has the same files in the end. -/
theorem parse_accounts_for_steps (h : parse diff = .ok files) :
    ∃ steps, DiffState.run .seeking 0 [] diff.lines = .ok steps ∧
      files = DiffStep.filesAmong steps ∧
      files.map path = steps.filterMap DiffStep.file? ∧
      (files.flatMap hunks).map Hunk.opened = steps.filterMap DiffStep.hunk? ∧
      files.flatMap addedLines = steps.filterMap DiffStep.added? ∧
      ∃ a, steps.foldlM Assembly.take? {} = some a ∧ a.files = files := by
  obtain ⟨steps, hsteps, hsuccession, rfl⟩ := exists_steps_of_parse h
  obtain ⟨a, ha, hfiles⟩ := Assembly.exists_foldlM_take?_eq_some (a := {}) hsuccession
  rw [Gathered.ofSteps_eq hsuccession] at hfiles ⊢
  refine ⟨steps, hsteps, rfl, (DiffStep.filterMap_file? steps).symm, ?_, ?_, a, ha, ?_⟩
  · rw [DiffStep.filterMap_hunk? hsuccession, DiffStep.hunksAmong_eq hsuccession,
      DiffStep.hunksBehind_of_seeking hsuccession]
    rfl
  · rw [DiffStep.filterMap_added? hsuccession, DiffStep.hunksBehind_of_seeking hsuccession,
      DiffStep.linesBehind_of_ne_inHunk hsuccession (by simp)]
    rfl
  · rw [hfiles]
    simp [Assembly.ended, OpenPlace.ended]

/-- A diff whose first hunk stands before every file, with a line before the first hunk of its file, a
file header that names no path and a file that comes twice. -/
def strayDiff : Text :=
  "@@ -1 +1 @@\n+stray\n+++ b/a\n+stray\n@@ -1 +1,2 @@\n+x\n\n+y\n@@ -9 +9 @@\n+++ b/ \n@@ -1 +1 @@\n"
    ++ "+stray\n+++ b/a\n@@ -2 +3 @@\n+z"

theorem parse_accounts_for_steps_stray :
    ∃ files, parse strayDiff = .ok files ∧
      files.map (fun file => file.hunks.map fun hunk => hunk.added.length) = [[2, 0], [1]] ∧
      ∃ steps, DiffState.run .seeking 0 [] strayDiff.lines = .ok steps ∧
        files = DiffStep.filesAmong steps ∧
        files.map path = steps.filterMap DiffStep.file? ∧
        (files.flatMap hunks).map Hunk.opened = steps.filterMap DiffStep.hunk? ∧
        files.flatMap addedLines = steps.filterMap DiffStep.added? ∧
        ∃ a, steps.foldlM Assembly.take? {} = some a ∧ a.files = files := by
  have hcounts : ((parse strayDiff).toOption.map fun files : List FileDiff =>
      files.map fun file => file.hunks.map fun hunk => hunk.added.length)
        = some [[2, 0], [1]] := by decide +kernel
  obtain ⟨files, hfiles, hcounts⟩ := Outcome.exists_ok_of_toOption hcounts
  exact ⟨files, hfiles, hcounts, parse_accounts_for_steps hfiles⟩

end FileDiff

end PatchReview
