/-
Line endings do not matter.

A line ends with a line feed, with or without a carriage return in front of it, and a
text may mix the two from line to line.  Reading undoes every such mixture, as long as
no line ends with a carriage return of its own: in front of a line feed that one would be
taken for a part of the ending.  The last line has no ending and may end as it likes.

A diff is read line by line, so what it comes to depends on its lines alone, and writing
its endings in another way changes neither its files nor the error that stops it.
-/
import PatchReview.Diff.Assembly
import PatchReview.Proofs.Text

namespace PatchReview

open CodePoint (lineFeed carriageReturn)

/-- How a line ends. -/
inductive LineEnding
  | feed
  | returnFeed
deriving DecidableEq, Repr

namespace LineEnding

/-- What is written for an ending. -/
def text : LineEnding → Text
  | feed => [lineFeed]
  | returnFeed => [carriageReturn, lineFeed]

end LineEnding

namespace Text

/-- Lines in a row, the line at each place with its own ending; the last one has none. -/
def joinEndings (endings : Nat → LineEnding) : List Text → Text
  | [] => []
  | [line] => line
  | line :: next :: rest =>
    line ++ (endings 0).text ++ joinEndings (fun place => endings (place + 1)) (next :: rest)

/-- Writes every line feed with a carriage return in front of it. -/
def withReturns (t : Text) : Text :=
  t.flatMap fun c => if c = lineFeed then [carriageReturn, lineFeed] else [c]

/-- What can stand in a row with any endings and be read back. -/
structure AreLines (ls : List Text) : Prop where
  nonempty : ls ≠ []
  noFeed : ∀ line ∈ ls, lineFeed ∉ line
  /-- A carriage return at the end of a line is no part of its ending; only the last line may have
  one there. -/
  noReturn : ∀ line ∈ ls.dropLast, line.getLast? ≠ some carriageReturn

theorem AreLines.tail {line next : Text} {rest : List Text} (h : AreLines (line :: next :: rest)) :
    AreLines (next :: rest) where
  nonempty := by simp
  noFeed := fun l hl => h.noFeed l (List.mem_cons_of_mem line hl)
  noReturn := fun l hl => h.noReturn l (List.mem_cons_of_mem line hl)

theorem AreLines.head {line next : Text} {rest : List Text} (h : AreLines (line :: next :: rest)) :
    IsLine line :=
  ⟨h.noFeed line (by simp), h.noReturn line (by simp)⟩

/-! ### One ending -/

/-- The lines of a text that does not go on with a line feed are one longer in their first line when
a code point is put in front. -/
theorem lines_cons {c : CodePoint} {t : Text} (hc : c ≠ lineFeed)
    (ht : c = carriageReturn → t.head? ≠ some lineFeed) {line : Text} {rest : List Text}
    (h : lines t = line :: rest) : lines (c :: t) = (c :: line) :: rest := by
  rw [lines, if_neg hc, if_neg fun hboth => ht hboth.1 hboth.2, h]

/-- A carriage return and a line feed cut off the line in front of them. -/
theorem lines_append_returnFeed {line : Text} (h : lineFeed ∉ line) (rest : Text) :
    lines (line ++ carriageReturn :: lineFeed :: rest) = line :: lines rest := by
  induction line with
  | nil => simp [lines, show carriageReturn ≠ lineFeed by decide]
  | cons c line ih =>
      rw [List.mem_cons, not_or] at h
      refine lines_cons (fun hc => h.1 hc.symm) (fun _ => ?_) (ih h.2)
      -- Behind `c` stands the rest of the line, or the carriage return.
      cases line with
      | nil => exact fun hhead => absurd (Option.some.inj hhead) (by decide)
      | cons d line => exact fun hhead => h.2 (by simp [Option.some.inj hhead])

/-- **An ending cuts off the line in front of it**, whichever of the two it is. -/
theorem lines_append_ending {line : Text} (h : IsLine line) (ending : LineEnding) (rest : Text) :
    lines (line ++ ending.text ++ rest) = line :: lines rest := by
  rw [List.append_assoc]
  cases ending with
  | feed => exact lines_append_feed h rest
  | returnFeed => exact lines_append_returnFeed h.noFeed rest

/-! ### All endings -/

/-- **Reading lines undoes writing them, whatever their endings.** -/
theorem lines_joinEndings {ls : List Text} (h : AreLines ls) (endings : Nat → LineEnding) :
    lines (joinEndings endings ls) = ls := by
  induction ls generalizing endings with
  | nil => exact absurd rfl h.nonempty
  | cons line ls ih =>
      cases ls with
      | nil => exact lines_of_not_mem (h.noFeed line (by simp))
      | cons next rest => rw [joinEndings, lines_append_ending h.head, ih h.tail]

/-- Where every line feed gets a carriage return there is no line feed in front. -/
theorem head?_withReturns (t : Text) : t.withReturns.head? ≠ some lineFeed := by
  cases t with
  | nil => simp [withReturns]
  | cons c t =>
      rw [withReturns, List.flatMap_cons]
      by_cases hc : c = lineFeed
      · rw [if_pos hc]
        exact fun hhead => absurd (Option.some.inj hhead) (by decide)
      · rw [if_neg hc]
        exact fun hhead => hc (Option.some.inj hhead)

/-- A text in which no carriage return stands in front of a line feed has the same lines when every
line feed gets one. -/
theorem lines_withReturns {t : Text} (h : ¬[carriageReturn, lineFeed] <:+: t) :
    lines t.withReturns = lines t := by
  induction t with
  | nil => rfl
  | cons c t ih =>
      have hrest : lines (withReturns t) = lines t :=
        ih fun hpart => h (hpart.trans ⟨[c], [], by simp⟩)
      have hpair : c = carriageReturn → t.head? ≠ some lineFeed := by
        rintro rfl hhead
        obtain ⟨rest, rfl⟩ := List.head?_eq_some_iff.mp hhead
        exact h ⟨[], rest, rfl⟩
      rw [withReturns, List.flatMap_cons, ← withReturns]
      by_cases hc : c = lineFeed
      · subst hc
        rw [if_pos rfl]
        calc lines ([carriageReturn, lineFeed] ++ withReturns t)
            = [] :: lines (withReturns t) := lines_append_returnFeed List.not_mem_nil _
          _ = lines (lineFeed :: t) := by rw [hrest, lines, if_pos rfl]
      · obtain ⟨line, behind, hlines⟩ := List.exists_cons_of_ne_nil (lines_ne_nil t)
        rw [if_neg hc, List.singleton_append, lines_cons hc hpair hlines]
        exact lines_cons hc (fun _ => head?_withReturns t) (hrest.trans hlines)

end Text

namespace FileDiff

open Text (joinEndings AreLines)

/-- What a diff comes to depends on its lines alone. -/
theorem parse_congr {diff diff' : Text} (h : diff.lines = diff'.lines) :
    parse diff = parse diff' := by
  rw [parse, parse, h]

/-- **Line endings do not matter.**  However the endings of some lines are chosen, the same lines
are read back, and a diff of them comes to the same files or to the same error; in particular every
line feed of a diff may get a carriage return if none has one yet. -/
theorem parse_endings :
    (∀ ls, AreLines ls → ∀ endings, (joinEndings endings ls).lines = ls ∧
      ∀ endings', parse (joinEndings endings ls) = parse (joinEndings endings' ls)) ∧
    ∀ diff : Text, ¬[carriageReturn, lineFeed] <:+: diff → parse diff.withReturns = parse diff := by
  refine ⟨fun ls hls endings => ?_, fun diff hdiff => parse_congr (Text.lines_withReturns hdiff)⟩
  have hlines := Text.lines_joinEndings hls endings
  refine ⟨hlines, fun endings' => parse_congr ?_⟩
  rw [hlines, Text.lines_joinEndings hls endings']

/-- Lines with carriage returns in the middle and at the very end, written with endings that
alternate. -/
theorem parse_endings_alternating :
    let ls : List Text := ["+++ b/a", "@@ -1 +1 @@", "+x\ry", "", "+z\r"]
    let alternating : Nat → LineEnding := fun place => if place % 2 = 0 then .returnFeed else .feed
    let diff : Text := "+++ b/a\n@@ -1 +1 @@\n+x\ry\n\n+z\r"
    AreLines ls ∧ (joinEndings alternating ls).lines = ls ∧
      joinEndings (fun _ => .feed) ls = diff ∧
      parse (joinEndings alternating ls) = parse diff ∧
      ¬[carriageReturn, lineFeed] <:+: diff ∧ parse diff.withReturns = parse diff ∧
      (parse diff).toOption.map (fun files => files.flatMap addedLines)
        = some [⟨1, "x\ry"⟩, ⟨3, "z\r"⟩] := by
  intro ls alternating diff
  have hls : AreLines ls :=
    { nonempty := by simp [ls], noFeed := by decide +kernel, noReturn := by decide +kernel }
  have hdiff : joinEndings (fun _ => .feed) ls = diff := by decide +kernel
  have hpair : ¬[carriageReturn, lineFeed] <:+: diff := by decide +kernel
  have hread := parse_endings.1 ls hls alternating
  exact ⟨hls, hread.1, hdiff, hdiff ▸ hread.2 fun _ => .feed, hpair, parse_endings.2 diff hpair,
    by decide +kernel⟩

end FileDiff

end PatchReview
