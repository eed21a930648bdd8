/-
Diffs whose numbers stay within the limit.

Of all that may stand in a diff only the numerals of hunk headers can be refused, and
only because they are too long.  What is counted from them has to be written later on: a
line is numbered from the start of its hunk, one number for each line at most, so the
numbers stay within the limit if the start and the number of lines together do.
-/
import PatchReview.Proofs.Diff.Numbering

namespace PatchReview

/-! ### Headers within the limit -/

namespace Hunk

/-- All numerals of a header. -/
def Numerals.all (n : Numerals) : List Text :=
  n.oldStart :: n.newStart :: (n.oldCount.toList ++ n.newCount.toList)

/-- The number that some digits denote. -/
def numberOf (digits : Text) : Nat := Decimal.valueOf (digits.filterMap CodePoint.digitValue?)

theorem read_of_length_le {digits : Text} (h : digits.length ≤ Decimal.digitLimit) :
    Decimal.read digits = .ok (numberOf digits) := by
  rw [Decimal.read, if_pos h]
  rfl

theorem numberOf_of_read {digits : Text} {n : Nat} (h : Decimal.read digits = .ok n) :
    n = numberOf digits := by
  rw [Decimal.read] at h
  split at h
  · exact (Except.ok.inj h).symm
  · exact absurd h (by simp)

theorem exists_readCount_eq_ok (count : Option Text)
    (h : ∀ digits ∈ count, digits.length ≤ Decimal.digitLimit) :
    ∃ n, readCount count = .ok n := by
  cases count with
  | none => exact ⟨0, rfl⟩
  | some digits => exact ⟨_, read_of_length_le (h digits rfl)⟩

variable {line : Text}

/-- Whether a line opens a hunk can be said if its numerals can be read. -/
theorem exists_ofHeader?_eq_ok
    (h : ∀ n ∈ numerals? line, ∀ digits ∈ n.all, digits.length ≤ Decimal.digitLimit) :
    ∃ found, ofHeader? line = .ok found := by
  unfold ofHeader?
  cases hn : numerals? line with
  | none => exact ⟨none, rfl⟩
  | some n =>
      have hread := h n hn
      refine Outcome.exists_bind_eq_ok ⟨_, read_of_length_le (hread _ (by simp [Numerals.all]))⟩
        fun _ _ => ?_
      refine Outcome.exists_bind_eq_ok (exists_readCount_eq_ok n.oldCount fun digits hdigits =>
        hread digits (by simp [Numerals.all, Option.mem_def.mp hdigits])) fun _ _ => ?_
      refine Outcome.exists_bind_eq_ok ⟨_, read_of_length_le (hread _ (by simp [Numerals.all]))⟩
        fun _ _ => ?_
      exact Outcome.exists_bind_eq_ok (exists_readCount_eq_ok n.newCount fun digits hdigits =>
        hread digits (by simp [Numerals.all, Option.mem_def.mp hdigits])) fun _ _ => ⟨_, rfl⟩

/-- A hunk starts where its header says. -/
theorem newStart_of_ofHeader? {hunk : Hunk} (h : ofHeader? line = .ok (some hunk)) :
    ∃ n ∈ numerals? line, hunk.newStart = numberOf n.newStart := by
  obtain ⟨n, hn, hread, -⟩ := exists_of_ofHeader? h
  exact ⟨n, hn, numberOf_of_read hread⟩

end Hunk

namespace FileDiff

/-- A diff with no numeral in a hunk header that is too long to be read. -/
def HeadersReadable (diff : Text) : Prop :=
  ∀ line ∈ diff.lines, ∀ n ∈ Hunk.numerals? line, ∀ digits ∈ n.all,
    digits.length ≤ Decimal.digitLimit

instance (diff : Text) : Decidable (HeadersReadable diff) :=
  inferInstanceAs (Decidable (∀ line ∈ diff.lines, ∀ n ∈ Hunk.numerals? line, ∀ digits ∈ n.all,
    digits.length ≤ Decimal.digitLimit))

/-- A diff all of whose lines could be numbered from the start of each of its hunks. -/
def LinesNumbered (diff : Text) : Prop :=
  ∀ line ∈ diff.lines, ∀ n ∈ Hunk.numerals? line,
    Hunk.numberOf n.newStart + diff.lines.length ≤ Nat.pow 10 Decimal.digitLimit

instance (diff : Text) : Decidable (LinesNumbered diff) :=
  inferInstanceAs (Decidable (∀ line ∈ diff.lines, ∀ n ∈ Hunk.numerals? line,
    Hunk.numberOf n.newStart + diff.lines.length ≤ Nat.pow 10 Decimal.digitLimit))

end FileDiff

/-! ### Reading without a refusal -/

namespace DiffState

variable {state : DiffState} {cursor : Int} {line previous : Text} {step : DiffStep}

/-- A line can be read if it can be said whether it opens a hunk. -/
theorem exists_advance_eq_ok (h : ∃ found, Hunk.ofHeader? line = .ok found) :
    ∃ step, advance state cursor line previous = .ok step := by
  unfold advance
  split
  · dsimp only
    split
    · exact ⟨_, rfl⟩
    · exact ⟨_, rfl⟩
  · dsimp only
    split
    · exact ⟨_, rfl⟩
    · by_cases hopen : state = .seeking
      · subst hopen
        exact ⟨_, rfl⟩
      · rw [advanceInside_of_open hopen]
        refine Outcome.exists_bind_eq_ok h fun found _ => ?_
        cases found <;> exact ⟨_, rfl⟩

theorem exists_run_eq_ok {lines : List Text}
    (h : ∀ line ∈ lines, ∃ found, Hunk.ofHeader? line = .ok found) :
    ∃ steps, run state cursor previous lines = .ok steps := by
  induction lines generalizing state cursor previous with
  | nil => exact ⟨[], rfl⟩
  | cons line lines ih =>
      refine Outcome.exists_bind_eq_ok (exists_advance_eq_ok (h line (by simp))) fun step _ => ?_
      exact Outcome.exists_bind_eq_ok (ih fun l hl => h l (by simp [hl])) fun _ _ => ⟨_, rfl⟩

/-! ### Numbers within a limit -/

/-- In a hunk the lines that are left can be numbered without reaching a limit. -/
def Numbered (limit : Nat) (state : DiffState) (cursor : Int) (left : Nat) : Prop :=
  state = .inHunk → cursor + left < limit

/-- Outside of hunks nothing is numbered. -/
theorem numbered_of_ne {limit : Nat} (h : state ≠ .inHunk) (cursor : Int) (left : Nat) :
    Numbered limit state cursor left := fun hopen => absurd hopen h

/-- A step after which the lines that are left can be numbered, and that has numbered its own. -/
structure StepNumbered (limit : Nat) (step : DiffStep) (left : Nat) : Prop where
  behind : Numbered limit step.state step.cursor left
  added : ∀ line, step.event = some (.added line) → line.number < limit

variable {limit left : Nat}

theorem body_numbered (h : cursor + (left + 1 : Nat) < limit) (line : Text) :
    StepNumbered limit (body cursor line) left := by
  rcases body_cases cursor line with ⟨text, -, hbody⟩ | hbody | hbody
  · rw [hbody]
    refine ⟨fun _ => by simp only; omega, fun l hl => ?_⟩
    obtain rfl : ⟨cursor + 1, text⟩ = l := by simpa using hl
    simp only
    omega
  · rw [hbody]
    exact ⟨fun _ => by simp only; omega, by simp⟩
  · rw [hbody]
    exact ⟨fun _ => by simp only; omega, by simp⟩

/-- **One line uses up one number at most.** -/
theorem advance_numbered (hnumbered : Numbered limit state cursor (left + 1))
    (hheader : ∀ hunk, Hunk.ofHeader? line = .ok (some hunk) → hunk.newStart + left ≤ limit)
    (h : advance state cursor line previous = .ok step) : StepNumbered limit step left := by
  rcases advance_cases h with ⟨target, -, -, rfl⟩ | rfl | ⟨-, h⟩
  · exact ⟨numbered_of_ne (by simp) _ _, by simp⟩
  · exact ⟨numbered_of_ne (by simp) _ _, by simp⟩
  · rcases advanceInside_cases h with
      ⟨-, rfl⟩ | ⟨-, hunk, hhunk, rfl⟩ | ⟨-, -, rfl⟩ | ⟨hopen, -, rfl⟩
    · exact ⟨numbered_of_ne (by simp) _ _, by simp⟩
    · have hstart := hheader hunk hhunk
      exact ⟨fun _ => by simp only; omega, by simp⟩
    · exact ⟨numbered_of_ne (by simp) _ _, by simp⟩
    · exact body_numbered (hnumbered hopen) line

/-- A run of lines numbers them one by one, so it stays within the limit. -/
theorem run_numbered {limit : Nat} {lines : List Text} {steps : List DiffStep}
    (hnumbered : Numbered limit state cursor lines.length)
    (hheaders : ∀ line ∈ lines, ∀ hunk, Hunk.ofHeader? line = .ok (some hunk) →
      hunk.newStart + lines.length ≤ limit)
    (h : run state cursor previous lines = .ok steps) :
    ∀ step ∈ steps, ∀ line, step.event = some (.added line) → line.number < limit := by
  induction lines generalizing state cursor previous steps with
  | nil =>
      rw [← Except.ok.inj h]
      simp
  | cons text lines ih =>
      obtain ⟨step, hstep, h⟩ := Outcome.bind_eq_ok.mp h
      obtain ⟨rest, hrest, h⟩ := Outcome.bind_eq_ok.mp h
      have hstarts : ∀ line ∈ text :: lines, ∀ hunk, Hunk.ofHeader? line = .ok (some hunk) →
          hunk.newStart + lines.length ≤ limit := by
        intro line hline hunk hhunk
        have hstart := hheaders line hline hunk hhunk
        rw [List.length_cons] at hstart
        omega
      have hkept := advance_numbered hnumbered (hstarts text (by simp)) hstep
      rw [← Outcome.pure_eq_ok.mp h]
      intro s hs
      rcases List.mem_cons.mp hs with rfl | hs
      · exact hkept.added
      · exact ih hkept.behind (fun t ht => hstarts t (by simp [ht])) hrest s hs

end DiffState

namespace FileDiff

variable {diff : Text}

/-- **A diff whose hunk headers can be read is parsed**, whatever else is in it. -/
theorem exists_parse_eq_ok (h : HeadersReadable diff) : ∃ files, parse diff = .ok files := by
  refine Outcome.exists_bind_eq_ok (DiffState.exists_run_eq_ok fun line hline => ?_)
    fun _ _ => ⟨_, rfl⟩
  exact Hunk.exists_ofHeader?_eq_ok (h line hline)

/-- **The numbers of its lines can be written** if the lines could be numbered from every start. -/
theorem writable_of_parse (h : LinesNumbered diff) {files : List FileDiff}
    (hfiles : parse diff = .ok files) :
    ∀ file ∈ files, ∀ line ∈ file.addedLines, Decimal.isWritable line.number.natAbs = true := by
  have hheaders : ∀ line ∈ diff.lines, ∀ hunk, Hunk.ofHeader? line = .ok (some hunk) →
      hunk.newStart + diff.lines.length ≤ Nat.pow 10 Decimal.digitLimit := by
    intro line hline hunk hhunk
    obtain ⟨n, hn, hstart⟩ := Hunk.newStart_of_ofHeader? hhunk
    rw [hstart]
    exact h line hline n hn
  have hstart : DiffState.Numbered (Nat.pow 10 Decimal.digitLimit) .seeking 0 diff.lines.length :=
    DiffState.numbered_of_ne (by decide) _ _
  have hlt := holds_of_events hfiles (P := fun event => ∀ line, event = .added line →
      line.number < (Nat.pow 10 Decimal.digitLimit : Nat)) fun steps hsteps step hstep event hevent
    line hline => DiffState.run_numbered hstart hheaders hsteps step hstep line (hline ▸ hevent)
  intro file hfile line hline
  have hnonneg := (sound_of_parse hfiles file hfile).numbers line hline
  have hbound := (hlt file hfile).2 line hline line rfl
  rw [Decimal.isWritable, decide_eq_true_eq]
  omega

/-! ### Refusals -/

/-- A hunk header whose first numeral is given. -/
def headerOf (digits : Text) : Text := "@@ -" ++ (digits ++ " +1 @@")

/-- A diff that opens a file and a hunk by such a header, with anything behind it. -/
def headed (digits rest : Text) : Text :=
  "+++ b/a" ++ CodePoint.lineFeed :: (headerOf digits ++ CodePoint.lineFeed :: rest)

section

variable {digits : Text} (hdecimal : ∀ c ∈ digits, c.isDigit = true)

include hdecimal

theorem lines_headed (rest : Text) :
    (headed digits rest).lines = ("+++ b/a" : Text) :: headerOf digits :: rest.lines := by
  have hnot : ∀ c : CodePoint, c.isDigit = false → c ∉ ("@@ -" : Text) → c ∉ (" +1 @@" : Text) →
      c ∉ headerOf digits := by
    intro c hc hfront hbehind hmem
    rcases List.mem_append.mp hmem with hmem | hmem
    · exact hfront hmem
    · rcases List.mem_append.mp hmem with hmem | hmem
      · rw [hdecimal c hmem] at hc
        exact absurd hc (by simp)
      · exact hbehind hmem
  rw [headed, Text.lines_append_feed (.of_not_mem (by decide) (by decide)),
    Text.lines_append_feed (.of_not_mem (hnot _ (by decide) (by decide) (by decide))
      (hnot _ (by decide) (by decide) (by decide)))]

theorem ofHeader?_headerOf (hlong : Decimal.digitLimit < digits.length) :
    Hunk.ofHeader? (headerOf digits) = .error (.tooLongToRead digits.length) := by
  have hne : digits ≠ [] := List.ne_nil_of_length_pos (Nat.zero_lt_of_lt hlong)
  have hnumerals : Hunk.numerals? (headerOf digits) = some ⟨digits, none, "1", none⟩ := by
    rw [Hunk.numerals?, headerOf, Text.dropStart?_append]
    simp only [Option.bind_eq_bind, Option.bind_some]
    rw [Hunk.numeral?_append hne hdecimal (by decide)]
    rfl
  rw [Hunk.ofHeader?, hnumerals]
  simp only [Decimal.read, if_neg (Nat.not_le.mpr hlong)]
  rfl

/-- **A numeral that is too long stops the parser**, whatever follows its header. -/
theorem parse_headed (hlong : Decimal.digitLimit < digits.length) (rest : Text) :
    parse (headed digits rest) = .error (.tooLongToRead digits.length) := by
  have hfile : DiffState.advance .seeking 0 "+++ b/a" []
      = .ok { state := .inFile, cursor := 0, event := some (.file "a") } := by decide
  have hheader : DiffState.advance .inFile 0 (headerOf digits) "+++ b/a"
      = .error (.tooLongToRead digits.length) := by
    rw [DiffState.advance_of_noPlus rfl, DiffState.advanceInside_of_open (by simp),
      ofHeader?_headerOf hdecimal hlong]
    rfl
  rw [parse, lines_headed hdecimal, DiffState.run, hfile]
  simp only [bind, Except.bind, DiffState.run, hheader]

end

end FileDiff

end PatchReview
