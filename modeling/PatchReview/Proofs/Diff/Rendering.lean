/-
Reading undoes writing.

The reader never uses the lengths that a hunk header states, so nothing but the shape of
a line tells headers, removed lines and content apart.  What makes it work is that the
lines behind any place of a written diff come to the same thing wherever the reader
stands: a section opens its own file or closes what was open, a hunk opens itself, and
only the lines of a body depend on the reader, through the number of the last line.  So
the lines are read from the last section to the first, within a section from its last
hunk to its first, and within a body line by line with the number at hand.
-/
import Mathlib.Data.List.Chain
import Mathlib.Data.List.Induction
import PatchReview.Proofs.Diff.Written
import PatchReview.Proofs.Number.Decimal

namespace PatchReview

open CodePoint (lineFeed carriageReturn)

namespace Written

/-! ### Numerals -/

theorem Numeral.read_digits (n : Numeral) : Decimal.read n.digits = .ok n.value := by
  rw [Decimal.read, if_pos n.withinLimit, Decimal.valueOf_eq_ofDigits, Numeral.value]

theorem readCount_digits (count : Option Numeral) :
    Hunk.readCount (count.map Numeral.digits) = .ok (countValue count) := by
  cases count with
  | none => rfl
  | some n => exact n.read_digits

/-- A numeral ends where its digits end. -/
theorem Numeral.numeral?_append (n : Numeral) {t : Text}
    (ht : ∀ c, t.head? = some c → c.isDigit = false) :
    Hunk.numeral? (n.digits ++ t) = some (n.digits, t) :=
  Hunk.numeral?_append n.nonempty n.decimal ht

/-- What may follow a numeral in a header, a comma or a space, does not prolong it. -/
theorem counted_head (count : Option Numeral) (t : Text) :
    ∀ c, (counted count ++ CodePoint.ofChar ' ' :: t).head? = some c → c.isDigit = false := by
  intro c hc
  cases count <;> (cases hc; decide)

/-- A count that may be left out is found in front of a space. -/
theorem count_counted (count : Option Numeral) (t : Text) :
    Hunk.count (counted count ++ CodePoint.ofChar ' ' :: t)
      = (count.map Numeral.digits, CodePoint.ofChar ' ' :: t) := by
  cases count with
  | none => rfl
  | some n =>
      have hspace : ∀ c, (CodePoint.ofChar ' ' :: t).head? = some c → c.isDigit = false :=
        counted_head none t
      rw [counted, List.append_assoc, Hunk.count, Text.dropStart?_append]
      simp only [n.numeral?_append hspace, Option.map_some]

/-! ### The header of a hunk -/

theorem HunkHeader.numerals?_line (h : HunkHeader) :
    Hunk.numerals? h.line = some ⟨h.oldStart.digits, h.oldCount.map Numeral.digits,
      h.newStart.digits, h.newCount.map Numeral.digits⟩ := by
  have hplus : ∀ t : Text, (" +" : Text) ++ t = CodePoint.ofChar ' ' :: (("+" : Text) ++ t) :=
    fun _ => rfl
  have hmark : ∀ t : Text, (" @@" : Text) ++ t = CodePoint.ofChar ' ' :: (("@@" : Text) ++ t) :=
    fun _ => rfl
  simp only [HunkHeader.line, List.append_assoc, Hunk.numerals?, Text.dropStart?_append,
    Option.bind_eq_bind, Option.bind_some]
  rw [h.oldStart.numeral?_append (by rw [hplus]; exact counted_head _ _)]
  simp only [Option.bind_some]
  rw [hplus, count_counted, ← hplus]
  simp only [Text.dropStart?_append, Option.bind_some]
  rw [h.newStart.numeral?_append (by rw [hmark]; exact counted_head _ _)]
  simp only [Option.bind_some]
  rw [hmark, count_counted, ← hmark]
  simp

/-- The hunk that a written one is read as, its added lines apart. -/
def HunkHeader.read (h : HunkHeader) : Hunk :=
  { header := h.line, oldStart := h.oldStart.value, oldLines := countValue h.oldCount
    newStart := h.newStart.value, newLines := countValue h.newCount }

theorem HunkHeader.ofHeader?_line (h : HunkHeader) : Hunk.ofHeader? h.line = .ok (some h.read) := by
  simp only [Hunk.ofHeader?, h.numerals?_line, Numeral.read_digits, readCount_digits]
  rfl

theorem HunkHeader.line_start (h : HunkHeader) : ∃ t, h.line = "@@ -" ++ t := by
  simp only [HunkHeader.line, List.append_assoc]
  exact ⟨_, rfl⟩

/-- In a file, the header of a hunk opens the hunk. -/
theorem HunkHeader.advance_line (h : HunkHeader) {state : DiffState} (hstate : state ≠ .seeking)
    (cursor : Int) (previous : Text) :
    DiffState.advance state cursor h.line previous
      = .ok { state := .inHunk, cursor := (h.newStart.value : Int) - 1,
              event := some (.hunk h.read) } := by
  obtain ⟨t, ht⟩ := h.line_start
  have hplus : h.line.startsWith "+" = false := by rw [ht]; rfl
  rw [DiffState.advance_of_noPlus hplus]
  cases state with
  | seeking => exact absurd rfl hstate
  | inFile => simp only [DiffState.advanceInside, h.ofHeader?_line]; rfl
  | inHunk => simp only [DiffState.advanceInside, h.ofHeader?_line]; rfl

/-! ### The body of a hunk -/

/-- The added lines of a body whose first line on the new side has number `n`. -/
def addedFrom (n : Int) : List BodyLine → List AddedLine
  | [] => []
  | .added t :: rest => ⟨n, t⟩ :: addedFrom (n + 1) rest
  | .kept _ :: rest => addedFrom (n + 1) rest
  | .removed _ :: rest | .note _ :: rest => addedFrom n rest

theorem map_text_addedFrom (n : Int) (body : List BodyLine) :
    (addedFrom n body).map AddedLine.text = body.filterMap BodyLine.addedText? := by
  induction body generalizing n with
  | nil => rfl
  | cons l body ih =>
      cases l with
      | added t => exact congrArg (t :: ·) (ih (n + 1))
      | kept t => exact ih (n + 1)
      | removed t => exact ih n
      | note t => exact ih n

/-- An added line is numbered by how many lines of the new side stand before it. -/
theorem newSide_of_mem_addedFrom {n : Int} {body : List BodyLine} {l : AddedLine}
    (h : l ∈ addedFrom n body) :
    ∃ i : Nat, l.number = n + i ∧
      (body.filter BodyLine.onNewSide)[i]? = some (.added l.text) := by
  induction body generalizing n with
  | nil => simp [addedFrom] at h
  | cons b body ih =>
      cases b with
      | added t =>
          rcases List.mem_cons.mp h with rfl | h
          · exact ⟨0, by simp, rfl⟩
          · obtain ⟨i, hi, hget⟩ := ih h
            exact ⟨i + 1, by push_cast; omega, hget⟩
      | kept t =>
          obtain ⟨i, hi, hget⟩ := ih (show l ∈ addedFrom (n + 1) body from h)
          exact ⟨i + 1, by push_cast; omega, hget⟩
      | removed t =>
          obtain ⟨i, hi, hget⟩ := ih (show l ∈ addedFrom n body from h)
          exact ⟨i, hi, hget⟩
      | note t =>
          obtain ⟨i, hi, hget⟩ := ih (show l ∈ addedFrom n body from h)
          exact ⟨i, hi, hget⟩

/-- In a hunk, a line of its body is nothing else. -/
theorem BodyLine.advance_line (l : BodyLine) (cursor : Int) {previous : Text}
    (hfile : l.line.startsWith FileDiff.headerMark = false)
    (hsides : previous.startsWith FileDiff.oldSideMark = true →
      l.line.startsWith FileDiff.newSideMark = false) :
    DiffState.advance .inHunk cursor l.line previous = .ok (DiffState.body cursor l.line) := by
  rw [DiffState.advance_eq_inside hfile]
  · cases l <;> rfl
  · intro hside
    refine ⟨rfl, ?_⟩
    cases hp : previous.startsWith FileDiff.oldSideMark with
    | false => rfl
    | true => rw [hsides hp] at hside; exact absurd hside (by simp)

/-- What a line of a body brings stands in front of what the lines behind it bring. -/
theorem prepend_body (cursor : Int) (l : BodyLine) (body : List BodyLine) (g : Gathered) :
    Gathered.prepend (DiffState.body cursor l.line)
        { g with added := addedFrom ((DiffState.body cursor l.line).cursor + 1) body ++ g.added }
      = { g with added := addedFrom (cursor + 1) (l :: body) ++ g.added } := by
  cases l <;> rfl

/-- A line that the two sides of a section cannot be made of with the line before it. -/
def Apart (previous line : Text) : Prop :=
  previous.startsWith FileDiff.oldSideMark = true → line.startsWith FileDiff.newSideMark = false

/-- **A body is read line by line**, and what follows it is read as it would be elsewhere. -/
theorem ofLines_body {rest : List Text} {g : Gathered}
    (hrest : ∀ cursor previous, Gathered.ofLines .inHunk cursor previous rest = .ok g) :
    ∀ (body : List BodyLine) (cursor : Int) (previous : Text),
      (∀ l ∈ body, l.line.startsWith FileDiff.headerMark = false) →
      (previous :: body.map BodyLine.line).IsChain Apart →
      Gathered.ofLines .inHunk cursor previous (body.map BodyLine.line ++ rest)
        = .ok { g with added := addedFrom (cursor + 1) body ++ g.added } := by
  intro body
  induction body with
  | nil => intro cursor previous _ _; exact hrest cursor previous
  | cons l body ih =>
      intro cursor previous hfile hchain
      rw [List.map_cons, List.isChain_cons_cons] at hchain
      have hstate : (DiffState.body cursor l.line).state = .inHunk := by cases l <;> rfl
      rw [List.map_cons, List.cons_append, Gathered.ofLines_cons_eq_ok]
      refine ⟨_, _, l.advance_line cursor (hfile l (by simp)) hchain.1, ?_,
        prepend_body cursor l body g⟩
      rw [hstate]
      exact ih _ _ (fun x hx => hfile x (by simp [hx])) hchain.2

/-! ### Hunks -/

/-- The hunk that a written one is read as. -/
def HunkText.read (h : HunkText) : Hunk :=
  { h.header.read with added := addedFrom h.header.newStart.value h.body }

theorem HunkText.readAs_read (h : HunkText) : h.ReadAs h.read where
  header := rfl
  oldStart := rfl
  oldLines := rfl
  newStart := rfl
  newLines := rfl
  texts := map_text_addedFrom _ h.body
  placed := by
    intro file hfile l hl
    obtain ⟨i, hi, hget⟩ := newSide_of_mem_addedFrom hl
    refine ⟨h.header.newStart.value + i, by rw [hi]; push_cast; rfl, ?_⟩
    exact hfile i _ hget

/-- The header of a hunk is apart from the first line of its body, so the whole hunk is a chain. -/
theorem HunkText.isChain_lines (h : HunkText) : h.lines.IsChain Apart := by
  rw [HunkText.lines]
  cases hb : h.body with
  | nil => simp
  | cons l body =>
      obtain ⟨t, ht⟩ := h.header.line_start
      have hhead : Apart h.header.line l.line := by
        intro hold
        rw [ht] at hold
        exact absurd hold Bool.false_ne_true
      have hbody : ((l :: body).map BodyLine.line).IsChain Apart := by
        rw [List.isChain_map, ← hb]
        exact h.noSides
      exact List.isChain_cons_cons.mpr ⟨hhead, hbody⟩

/-- **The hunks of a file are read one after another**, in front of whatever comes to files alone. -/
theorem ofLines_hunks {rest : List Text} {files : List FileDiff}
    (hrest : ∀ state cursor previous,
      Gathered.ofLines state cursor previous rest = .ok { files }) :
    ∀ (hunks : List HunkText) (state : DiffState) (cursor : Int) (previous : Text),
      state ≠ .seeking →
      Gathered.ofLines state cursor previous (hunks.flatMap HunkText.lines ++ rest)
        = .ok { hunks := hunks.map HunkText.read, files } := by
  intro hunks
  induction hunks with
  | nil => intro state cursor previous _; exact hrest state cursor previous
  | cons h hunks ih =>
      intro state cursor previous hstate
      have hbody := ofLines_body (fun cursor previous => ih .inHunk cursor previous (by simp))
        h.body ((h.header.newStart.value : Int) - 1) h.header.line h.noFile h.isChain_lines
      rw [Int.sub_add_cancel] at hbody
      rw [List.flatMap_cons, List.append_assoc, HunkText.lines, List.cons_append,
        Gathered.ofLines_cons_eq_ok]
      refine ⟨_, _, h.header.advance_line hstate cursor previous, hbody, ?_⟩
      simp [Gathered.prepend, HunkText.read]

/-! ### Lines that are passed over -/

/-- A line that brings nothing and leaves the reader where it stands. -/
def PassedIn (state : DiffState) (line : Text) : Prop :=
  ∀ cursor previous, ∃ after,
    DiffState.advance state cursor line previous = .ok { state, cursor := after }

theorem passedIn_of_quiet (state : DiffState) {line : Text} (hplus : line.startsWith "+" = false)
    (hhunk : line.startsWith "@@ -" = false) : PassedIn state line := by
  intro cursor previous
  have hheader : Hunk.ofHeader? line = .ok none := by
    simp [Hunk.ofHeader?, Hunk.numerals?, Text.dropStart?_eq_none hhunk]
  rw [DiffState.advance_of_noPlus hplus]
  cases state with
  | seeking => exact ⟨cursor, rfl⟩
  | inFile => exact ⟨cursor, by simp only [DiffState.advanceInside, hheader]; rfl⟩
  | inHunk =>
      obtain ⟨after, hbody⟩ := DiffState.body_of_noPlus hplus cursor
      exact ⟨after, by simp only [DiffState.advanceInside, hheader, ← hbody]; rfl⟩

/-- Outside every file only a line that starts with a plus can matter. -/
theorem passedIn_seeking {line : Text} (hplus : line.startsWith "+" = false) :
    PassedIn .seeking line := by
  intro cursor previous
  exact ⟨cursor, DiffState.advance_of_noPlus hplus⟩

/-- Lines that are passed over leave nothing in front of what follows them, be it that files follow
alone or that a file is open. -/
theorem ofLines_passed {state : DiffState} {rest : List Text} {g : Gathered}
    (hclosed : state = .seeking → g.closed = g)
    (hrest : ∀ cursor previous, Gathered.ofLines state cursor previous rest = .ok g) :
    ∀ (ls : List Text) (cursor : Int) (previous : Text), (∀ l ∈ ls, PassedIn state l) →
      Gathered.ofLines state cursor previous (ls ++ rest) = .ok g := by
  intro ls
  induction ls with
  | nil => intro cursor previous _; exact hrest cursor previous
  | cons l ls ih =>
      intro cursor previous hpassed
      obtain ⟨after, hstep⟩ := hpassed l (by simp) cursor previous
      rw [List.cons_append, Gathered.ofLines_cons_eq_ok]
      refine ⟨_, g, hstep, ih after l fun x hx => hpassed x (by simp [hx]), ?_⟩
      by_cases hstate : state = .seeking
      · simp [Gathered.prepend, hstate, hclosed hstate]
      · simp [Gathered.prepend, hstate]

theorem Preamble.passedIn {ls : List Text} (h : Preamble ls) (state : DiffState) :
    ∀ l ∈ ls, PassedIn state l :=
  fun l hl => passedIn_of_quiet state (h l hl).2.1 (h l hl).2.2

/-! ### Sections -/

/-- The file that a kept section is read as. -/
def FileText.read (f : FileText) : FileDiff := { path := f.path, hunks := f.hunks.map HunkText.read }

theorem FileText.readAs_read (f : FileText) : f.ReadAs f.read where
  path := rfl
  hunks := by
    rw [FileText.read, List.forall₂_map_right_iff, List.forall₂_same]
    exact fun h _ => h.readAs_read

/-- Whatever follows comes to some files, wherever the reader stands. -/
def ComesTo (rest : List Text) (files : List FileDiff) : Prop :=
  ∀ state cursor previous, Gathered.ofLines state cursor previous rest = .ok { files }

/-- **A kept section puts its file in front.** -/
theorem FileText.comesTo {rest : List Text} {files : List FileDiff} (f : FileText)
    (hrest : ComesTo rest files) : ComesTo (f.lines ++ rest) (f.read :: files) := by
  intro state cursor previous
  rw [FileText.lines, List.append_assoc]
  refine ofLines_passed (fun _ => rfl) ?_ f.preamble cursor previous (f.quiet.passedIn state)
  intro cursor previous
  rw [List.cons_append, Gathered.ofLines_cons_eq_ok]
  exact ⟨_, _, DiffState.advance_fileHeader f.nonempty f.plain.1 f.noTab f.trimmed,
    ofLines_hunks hrest f.hunks .inFile 0 _ (by simp), rfl⟩

/-- The lines of a hunk without a line on the new side have no plus in front. -/
theorem HunkText.noPlus_of_newSide_eq_nil {h : HunkText} (hold : h.newSide = []) :
    ∀ l ∈ h.lines, l.startsWith "+" = false := by
  intro l hl
  rcases List.mem_cons.mp hl with rfl | hl
  · obtain ⟨t, ht⟩ := h.header.line_start
    rw [ht]
    rfl
  · obtain ⟨b, hb, rfl⟩ := List.mem_map.mp hl
    have hside : b.onNewSide = false := by
      have := (List.filter_eq_nil_iff.mp hold) b hb
      simpa using this
    cases b with
    | added t => simp [BodyLine.onNewSide] at hside
    | kept t => rfl
    | removed t => rfl
    | note t => rfl

/-- **A deleted section leaves nothing.**  Its old side stands right before the header that names no
file, and from there on the reader is outside every file. -/
theorem DeletedText.comesTo {rest : List Text} {files : List FileDiff} (f : DeletedText)
    (hrest : ComesTo rest files) : ComesTo (f.lines ++ rest) files := by
  intro state cursor previous
  rw [DeletedText.lines, List.append_assoc]
  refine ofLines_passed (fun _ => rfl) ?_ f.preamble cursor previous (f.quiet.passedIn state)
  intro cursor previous
  obtain ⟨after, hold⟩ : ∃ after,
      DiffState.advance state cursor (FileDiff.oldSideMark ++ f.oldSide) previous
        = .ok { state, cursor := after } :=
    passedIn_of_quiet state rfl rfl cursor previous
  have hnone : DiffState.advance state after ("+++ /dev/null" : Text)
      (FileDiff.oldSideMark ++ f.oldSide) = .ok { state := .seeking, cursor := 0 } :=
    DiffState.advance_noFile rfl rfl rfl
  have hbodies : ∀ l ∈ f.hunks.flatMap HunkText.lines, PassedIn .seeking l := by
    intro l hl
    obtain ⟨h, hh, hl⟩ := List.mem_flatMap.mp hl
    exact passedIn_seeking (HunkText.noPlus_of_newSide_eq_nil (f.onlyOld h hh) l hl)
  have hclosed := ofLines_passed (fun _ => rfl) (hrest .seeking) (f.hunks.flatMap HunkText.lines) 0
    ("+++ /dev/null" : Text) hbodies
  rw [List.cons_append, List.cons_append, Gathered.ofLines_cons_eq_ok]
  refine ⟨_, { files }, hold, ?_, by cases state <;> rfl⟩
  rw [Gathered.ofLines_cons_eq_ok]
  exact ⟨_, _, hnone, hclosed, rfl⟩

theorem comesTo_sections (sections : List Section) :
    ComesTo (sections.flatMap Section.lines)
      ((sections.filterMap Section.kept?).map FileText.read) := by
  induction sections with
  | nil => intro state cursor previous; rfl
  | cons s sections ih =>
      rw [List.flatMap_cons]
      cases s with
      | kept f => exact f.comesTo ih
      | deleted f => exact f.comesTo ih

/-! ### A written diff is cut into its lines -/

theorem Plain.isLine {t : Text} (h : Plain t) : t.IsLine := Text.IsLine.of_not_mem h.1 h.2

theorem Plain.append {s t : Text} (hs : Plain s) (ht : Plain t) : Plain (s ++ t) := by
  refine ⟨fun h => ?_, fun h => ?_⟩
  · exact (List.mem_append.mp h).elim hs.1 ht.1
  · exact (List.mem_append.mp h).elim hs.2 ht.2

theorem Numeral.plain (n : Numeral) : Plain n.digits := by
  refine ⟨fun h => ?_, fun h => ?_⟩
  · exact absurd (n.decimal _ h) (by decide)
  · exact absurd (n.decimal _ h) (by decide)

theorem plain_counted (count : Option Numeral) : Plain (counted count) := by
  cases count with
  | none => exact ⟨by simp [counted], by simp [counted]⟩
  | some n => exact Plain.append ⟨by decide, by decide⟩ n.plain

theorem HunkHeader.plain_line (h : HunkHeader) : Plain h.line := by
  have hstart : Plain ("@@ -" : Text) := ⟨by decide, by decide⟩
  have hplus : Plain (" +" : Text) := ⟨by decide, by decide⟩
  have hmark : Plain (" @@" : Text) := ⟨by decide, by decide⟩
  exact ((((((hstart.append h.oldStart.plain).append (plain_counted _)).append hplus).append
    h.newStart.plain).append (plain_counted _)).append hmark).append h.plain

theorem BodyLine.plain_line {l : BodyLine} (h : Plain l.text) : Plain l.line := by
  have hmark : Plain [CodePoint.ofChar l.mark] := by
    cases l <;> rw [mark] <;> exact ⟨by decide, by decide⟩
  exact hmark.append h

theorem HunkText.plain_lines (h : HunkText) : ∀ l ∈ h.lines, Plain l := by
  intro l hl
  rcases List.mem_cons.mp hl with rfl | hl
  · exact h.header.plain_line
  · obtain ⟨b, hb, rfl⟩ := List.mem_map.mp hl
    exact BodyLine.plain_line (h.plain b hb)

theorem Section.plain_lines (s : Section) : ∀ l ∈ s.lines, Plain l := by
  have hhunks : ∀ hunks : List HunkText, ∀ l ∈ hunks.flatMap HunkText.lines, Plain l := by
    intro hunks l hl
    obtain ⟨h, -, hl⟩ := List.mem_flatMap.mp hl
    exact h.plain_lines l hl
  intro l hl
  cases s with
  | kept f =>
      rcases List.mem_append.mp hl with hl | hl
      · exact (f.quiet l hl).1
      · rcases List.mem_cons.mp hl with rfl | hl
        · exact Plain.append ⟨by decide, by decide⟩ f.plain
        · exact hhunks f.hunks l hl
  | deleted f =>
      rcases List.mem_append.mp hl with hl | hl
      · exact (f.quiet l hl).1
      · rcases List.mem_cons.mp hl with rfl | hl
        · exact Plain.append ⟨by decide, by decide⟩ f.plain
        · rcases List.mem_cons.mp hl with rfl | hl
          · exact ⟨by decide, by decide⟩
          · exact hhunks f.hunks l hl

theorem Section.lines_ne_nil (s : Section) : s.lines ≠ [] := by
  cases s <;> simp [Section.lines, FileText.lines, DeletedText.lines]

theorem lines_render {sections : List Section} (hne : sections ≠ []) :
    (render sections).lines = sections.flatMap Section.lines := by
  refine Text.lines_join ?_ ?_
  · intro h
    obtain ⟨s, hs⟩ := List.exists_mem_of_ne_nil sections hne
    exact s.lines_ne_nil (List.flatMap_eq_nil_iff.mp h s hs)
  · intro l hl
    obtain ⟨s, -, hl⟩ := List.mem_flatMap.mp hl
    exact (s.plain_lines l hl).isLine

/-- **Parsing undoes rendering.**  A written diff is read as its kept sections, in order; each of
their hunks is read with its header, the four numbers of it, and its added lines, numbered as in
every file that the hunk stands in. -/
theorem parse_render (sections : List Section) :
    ∃ files, FileDiff.parse (render sections) = .ok files ∧
      List.Forall₂ FileText.ReadAs (sections.filterMap Section.kept?) files := by
  refine ⟨(sections.filterMap Section.kept?).map FileText.read, ?_, ?_⟩
  · cases sections with
    | nil => rfl
    | cons s sections =>
        rw [FileDiff.parse_eq_ok, lines_render (by simp)]
        exact ⟨_, comesTo_sections (s :: sections) .seeking 0 [], rfl⟩
  · rw [List.forall₂_map_right_iff, List.forall₂_same]
    exact fun f _ => f.readAs_read

/-- A line that starts with `--- ` ends the body of a hunk only if the line behind it names the new
side. -/
example :
    FileDiff.parse "+++ b/a\n@@ -1 +1,2 @@\n x\n--- y\n+z\n--- b\n+++ /dev/null\n@@ -1 +0,0 @@\n-w" =
      .ok [{ path := "a"
             hunks := [{ header := "@@ -1 +1,2 @@", oldStart := 1, oldLines := 0, newStart := 1
                         newLines := 2, added := [⟨2, "z"⟩] }] }] := by
  rfl

end Written

end PatchReview
