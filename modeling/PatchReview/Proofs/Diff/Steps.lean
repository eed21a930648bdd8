/-
What one line does to the reader of a diff.

`advance_cases` lists everything a line can do, so that facts about whole runs need not
look into the reader again.  The lemmas behind it go the other way: a line of a known
shape does a known thing.  `Gathered.ofLines` then reads lines and gathers what they
bring in one go; it is the form in which a diff is read from its end to its beginning,
which is how what belongs to a hunk or a file is found.
-/
import PatchReview.Diff.Assembly
import PatchReview.Proofs.Outcome
import PatchReview.Proofs.Text

namespace PatchReview

open CodePoint (lineFeed)

/-! ### File headers -/

namespace FileDiff

/-- A file header names what follows its mark, as long as that is something on one line. -/
theorem headerTarget?_mark {target : Text} (hne : target ≠ []) (hfeed : lineFeed ∉ target) :
    headerTarget? (headerMark ++ target) = some target := by
  have hempty : target.isEmpty = false := by simpa using hne
  simp [headerTarget?, Text.before_of_not_mem hfeed, hempty]

theorem headerTarget?_eq_none {line : Text} (h : line.startsWith headerMark = false) :
    headerTarget? line = none := by
  simp [headerTarget?, Text.dropStart?_eq_none h]

/-- A target without a tab and without white space at its ends is the path it names. -/
theorem pathOfTarget_eq_self {path : Text} (htab : CodePoint.ofChar '\t' ∉ path)
    (htrim : path.trim = path) : pathOfTarget path = path := by
  rw [pathOfTarget, Text.before_of_not_mem htab, htrim]

end FileDiff

/-! ### Hunk headers -/

/-- A numeral ends where the digits end. -/
theorem Hunk.numeral?_append {digits t : Text} (hne : digits ≠ [])
    (hdecimal : ∀ c ∈ digits, c.isDigit = true) (ht : ∀ c, t.head? = some c → c.isDigit = false) :
    Hunk.numeral? (digits ++ t) = some (digits, t) := by
  have htake : t.takeWhile CodePoint.isDigit = [] := by
    cases t with
    | nil => rfl
    | cons c t => rw [List.takeWhile_cons_of_neg (by simp [ht c rfl])]
  have hdrop : t.dropWhile CodePoint.isDigit = t := by
    cases t with
    | nil => rfl
    | cons c t => rw [List.dropWhile_cons_of_neg (by simp [ht c rfl])]
  have hempty : digits.isEmpty = false := by simpa using hne
  rw [Hunk.numeral?, Decimal.span, List.takeWhile_append_of_pos hdecimal,
    List.dropWhile_append_of_pos hdecimal, htake, hdrop, List.append_nil]
  simp [hempty]

/-- A header opens a hunk with the numbers that its numerals denote, and without lines. -/
theorem Hunk.exists_of_ofHeader? {line : Text} {hunk : Hunk}
    (h : Hunk.ofHeader? line = .ok (some hunk)) :
    ∃ n ∈ Hunk.numerals? line, Decimal.read n.newStart = .ok hunk.newStart ∧ hunk.added = [] := by
  unfold Hunk.ofHeader? at h
  cases hn : Hunk.numerals? line with
  | none => simp [hn] at h
  | some n =>
      rw [hn] at h
      obtain ⟨oldStart, -, h⟩ := Outcome.bind_eq_ok.mp h
      obtain ⟨oldLines, -, h⟩ := Outcome.bind_eq_ok.mp h
      obtain ⟨newStart, hnewStart, h⟩ := Outcome.bind_eq_ok.mp h
      obtain ⟨newLines, -, h⟩ := Outcome.bind_eq_ok.mp h
      rw [← Option.some.inj (Outcome.pure_eq_ok.mp h)]
      exact ⟨n, rfl, hnewStart, rfl⟩

namespace DiffState

variable {state : DiffState} {cursor : Int} {line previous : Text} {step : DiffStep}

/-! ### Everything a line can do -/

/-- In a file a line opens a hunk if it is the header of one. -/
theorem advanceInside_of_open (hopen : state ≠ .seeking) :
    advanceInside state cursor line = do
      match ← Hunk.ofHeader? line with
      | some hunk =>
        return { state := .inHunk, cursor := (hunk.newStart : Int) - 1, event := some (.hunk hunk) }
      | none => return if state = .inHunk then body cursor line else { state, cursor } := by
  cases state with
  | seeking => exact absurd rfl hopen
  | inFile => rfl
  | inHunk => rfl

/-- In a body a line is added, counts as a line of the new side, or leaves the numbering alone. -/
theorem body_cases (cursor : Int) (line : Text) :
    (∃ text, line = CodePoint.ofChar '+' :: text ∧ body cursor line
      = { state := .inHunk, cursor := cursor + 1, event := some (.added ⟨cursor + 1, text⟩) }) ∨
    body cursor line = { state := .inHunk, cursor := cursor + 1 } ∨
    body cursor line = { state := .inHunk, cursor } := by
  cases line with
  | nil => exact Or.inr (Or.inl rfl)
  | cons c text =>
      by_cases hplus : c = CodePoint.ofChar '+'
      · exact Or.inl ⟨text, by rw [hplus], by simp only [body, if_pos hplus]⟩
      · by_cases hspace : c = CodePoint.ofChar ' '
        · exact Or.inr (Or.inl (by simp only [body, if_neg hplus, if_pos hspace]))
        · exact Or.inr (Or.inr (by simp only [body, if_neg hplus, if_neg hspace]))

/-- A line that names no file leaves a reader outside every file alone; in a file it opens a hunk, or
else it belongs to the body if a hunk is open and is passed over if none is. -/
theorem advanceInside_cases (h : advanceInside state cursor line = .ok step) :
    (state = .seeking ∧ step = { state := .seeking, cursor }) ∨
    (state ≠ .seeking ∧ ∃ hunk, Hunk.ofHeader? line = .ok (some hunk) ∧
      step = { state := .inHunk, cursor := (hunk.newStart : Int) - 1,
               event := some (.hunk hunk) }) ∨
    (state = .inFile ∧ Hunk.ofHeader? line = .ok none ∧ step = { state := .inFile, cursor }) ∨
    (state = .inHunk ∧ Hunk.ofHeader? line = .ok none ∧ step = body cursor line) := by
  by_cases hopen : state = .seeking
  · subst hopen
    exact Or.inl ⟨rfl, (Except.ok.inj h).symm⟩
  · rw [advanceInside_of_open hopen] at h
    obtain ⟨found, hfound, h⟩ := Outcome.bind_eq_ok.mp h
    cases found with
    | some hunk => exact Or.inr (Or.inl ⟨hopen, hunk, hfound, (Outcome.pure_eq_ok.mp h).symm⟩)
    | none =>
        have hstep := (Outcome.pure_eq_ok.mp h).symm
        cases state with
        | seeking => exact absurd rfl hopen
        | inFile => exact Or.inr (Or.inr (Or.inl ⟨rfl, hfound, hstep⟩))
        | inHunk => exact Or.inr (Or.inr (Or.inr ⟨rfl, hfound, hstep⟩))

/-- **Everything a line can do.**  It opens a file, it closes whatever is open, or it is none of the
headers that name a side and `advanceInside_cases` applies. -/
theorem advance_cases (h : advance state cursor line previous = .ok step) :
    (∃ target, FileDiff.headerTarget? line = some target ∧ FileDiff.pathOfTarget target ≠ [] ∧
      step = { state := .inFile, cursor := 0,
               event := some (.file (FileDiff.pathOfTarget target)) }) ∨
    step = { state := .seeking, cursor := 0 } ∨
    (FileDiff.headerTarget? line = none ∧ advanceInside state cursor line = .ok step) := by
  unfold advance at h
  cases ht : FileDiff.headerTarget? line with
  | some target =>
      simp only [ht] at h
      split at h
      · simp only [Except.ok.injEq] at h
        exact Or.inr (Or.inl h.symm)
      · rename_i hpath
        simp only [Except.ok.injEq] at h
        exact Or.inl ⟨target, rfl, by simpa using hpath, h.symm⟩
  | none =>
      simp only [ht] at h
      split at h
      · simp only [Except.ok.injEq] at h
        exact Or.inr (Or.inl h.symm)
      · exact Or.inr (Or.inr ⟨rfl, h⟩)

/-- Every step of a run comes of one of its lines. -/
theorem exists_advance_of_mem_run {lines : List Text} {steps : List DiffStep}
    (h : run state cursor previous lines = .ok steps) :
    ∀ step ∈ steps, ∃ line ∈ lines, ∃ state cursor previous,
      advance state cursor line previous = .ok step := by
  induction lines generalizing state cursor previous steps with
  | nil =>
      rw [← Except.ok.inj h]
      simp
  | cons line lines ih =>
      obtain ⟨first, hfirst, h⟩ := Outcome.bind_eq_ok.mp h
      obtain ⟨rest, hrest, h⟩ := Outcome.bind_eq_ok.mp h
      rw [← Outcome.pure_eq_ok.mp h]
      intro step hstep
      rcases List.mem_cons.mp hstep with rfl | hstep
      · exact ⟨line, by simp, state, cursor, previous, hfirst⟩
      · obtain ⟨l, hl, hadvance⟩ := ih hrest step hstep
        exact ⟨l, by simp [hl], hadvance⟩

/-! ### Lines of a known shape -/

/-- A file header opens its file, wherever the reader stands. -/
theorem advance_fileHeader {path : Text} (hne : path ≠ []) (hfeed : lineFeed ∉ path)
    (htab : CodePoint.ofChar '\t' ∉ path) (htrim : path.trim = path) :
    advance state cursor (FileDiff.headerMark ++ path) previous
      = .ok { state := .inFile, cursor := 0, event := some (.file path) } := by
  have hempty : path.isEmpty = false := by simpa using hne
  simp [advance, FileDiff.headerTarget?_mark hne hfeed, FileDiff.pathOfTarget_eq_self htab htrim,
    hempty]

/-- A header that names a new side, but no file, closes the file if the old side stands before it. -/
theorem advance_noFile (hmark : line.startsWith FileDiff.headerMark = false)
    (hside : line.startsWith FileDiff.newSideMark = true)
    (hprevious : previous.startsWith FileDiff.oldSideMark = true) :
    advance state cursor line previous = .ok { state := .seeking, cursor := 0 } := by
  simp [advance, FileDiff.headerTarget?_eq_none hmark, hside, hprevious]

/-- A line that does not name a new side, or does so in a hunk without the old side before it, is
left to `advanceInside`. -/
theorem advance_eq_inside (hmark : line.startsWith FileDiff.headerMark = false)
    (hside : line.startsWith FileDiff.newSideMark = true →
      state = .inHunk ∧ previous.startsWith FileDiff.oldSideMark = false) :
    advance state cursor line previous = advanceInside state cursor line := by
  simp only [advance, FileDiff.headerTarget?_eq_none hmark]
  rw [if_neg]
  rintro ⟨hs, hstate | hprevious⟩
  · exact hstate (hside hs).1
  · rw [(hside hs).2] at hprevious
    exact absurd hprevious (by simp)

/-- A line that does not start with a plus names no side. -/
theorem advance_of_noPlus (hplus : line.startsWith "+" = false) :
    advance state cursor line previous = advanceInside state cursor line := by
  have hmark : line.startsWith FileDiff.headerMark = false :=
    Text.startsWith_append_eq_false "++ b/" hplus
  have hside : line.startsWith FileDiff.newSideMark = false :=
    Text.startsWith_append_eq_false "++ " hplus
  exact advance_eq_inside hmark fun hs => absurd hs (by simp [hside])

/-- Without a plus a line of a body adds nothing; it may still count as a line of the new side. -/
theorem body_of_noPlus (hplus : line.startsWith "+" = false) (cursor : Int) :
    ∃ after, body cursor line = { state := .inHunk, cursor := after } := by
  rcases body_cases cursor line with ⟨text, rfl, -⟩ | h | h
  · exact absurd (show true = false from hplus) (by simp)
  · exact ⟨cursor + 1, h⟩
  · exact ⟨cursor, h⟩

end DiffState

/-! ### Reading and gathering at once -/

namespace Gathered

variable {state : DiffState} {cursor : Int} {line previous : Text} {rest : List Text}

/-- What lines come to for a reader that stands at some place. -/
def ofLines (state : DiffState) (cursor : Int) (previous : Text) (lines : List Text) :
    Except NumeralError Gathered := do
  let steps ← DiffState.run state cursor previous lines
  return ofSteps steps

@[simp] theorem ofLines_nil : ofLines state cursor previous [] = .ok {} := rfl

/-- **A line is read in front of the lines behind it.** -/
theorem ofLines_cons_eq_ok {g : Gathered} :
    ofLines state cursor previous (line :: rest) = .ok g ↔
      ∃ step behind, DiffState.advance state cursor line previous = .ok step ∧
        ofLines step.state step.cursor line rest = .ok behind ∧ prepend step behind = g := by
  simp only [ofLines, DiffState.run, Outcome.bind_eq_ok, Outcome.pure_eq_ok]
  constructor
  · rintro ⟨_, ⟨step, hstep, steps, hsteps, rfl⟩, rfl⟩
    exact ⟨step, ofSteps steps, hstep, ⟨steps, hsteps, rfl⟩, rfl⟩
  · rintro ⟨step, _, hstep, ⟨steps, hsteps, rfl⟩, rfl⟩
    exact ⟨step :: steps, ⟨step, hstep, steps, hsteps, rfl⟩, rfl⟩

end Gathered

namespace FileDiff

/-- The files of a diff are those that its lines come to. -/
theorem parse_eq_ok {diff : Text} {files : List FileDiff} :
    parse diff = .ok files ↔
      ∃ g, Gathered.ofLines .seeking 0 [] diff.lines = .ok g ∧ g.files = files := by
  simp only [parse, Gathered.ofLines, Outcome.bind_eq_ok, Outcome.pure_eq_ok]
  constructor
  · rintro ⟨steps, hsteps, rfl⟩
    exact ⟨_, ⟨steps, hsteps, rfl⟩, rfl⟩
  · rintro ⟨_, ⟨steps, hsteps, rfl⟩, rfl⟩
    exact ⟨steps, hsteps, rfl⟩

end FileDiff

end PatchReview
