/-
Every result of a review is anchored in its diff.

A finding is about one added line of the diff: its file is the path of a section that
adds the line, its place is the number of the line, which is a natural number however
malformed the diff, and its evidence quotes that very line or the import on it.  Neither
the merging of sections, nor the caps, nor the order in which boundaries nest can make a
finding about anything else, since each of them only chooses among added lines.
-/
import PatchReview.Proofs.Diff.Numbering
import PatchReview.Proofs.Finding.Fingerprint
import PatchReview.Proofs.Review.BoundaryPass
import PatchReview.Proofs.Review.RulePass
import PatchReview.Proofs.Rule.Load

namespace PatchReview

/-- The place of a line: its number in the decimal system behind the letter `L`. -/
def AddedLine.LocatedAt (line : AddedLine) (place : Text) : Prop :=
  ∃ n : Nat, line.number = n ∧ place = "L" ++ Decimal.ofNat n

/-- A finding about an added line of a diff. -/
structure Finding.Anchored (files : List FileDiff) (line : AddedLine) (f : Finding) : Prop where
  path : f.file ∈ FileDiff.changedPaths files
  adds : FileDiff.Adds files f.file line
  place : line.LocatedAt f.locator
  evidence : ∃ rest, f.evidence.head? = some ("[" ++ f.locator ++ "] " ++ rest)
  severity : f.severity ∈ (["critical", "major", "minor", "info"] : List Text)
  rule : f.rule ≠ []
  area : f.area ≠ []
  why : f.why ≠ []
  fingerprint : f.fingerprint.length = 40 ∧ ∀ c ∈ f.fingerprint, c ∈ Fingerprint.alphabet

/-- A task about an added line of a diff. -/
structure LlmTask.Anchored (files : List FileDiff) (line : AddedLine) (task : LlmTask) :
    Prop where
  path : task.file ∈ FileDiff.changedPaths files
  adds : FileDiff.Adds files task.file line
  place : line.LocatedAt task.locator
  snippet : task.snippet <+: line.text

/-- A line as evidence quotes it: the whole of it, or its beginning and an ellipsis. -/
def AddedLine.quote (line : AddedLine) : Text :=
  if line.text.length ≤ 180 then line.text else line.text.take 177 ++ "…"

namespace Review

variable {files : List FileDiff} {line : AddedLine} {path : Text}

/-! ### One line -/

theorem locatedAt_placeOf (hsound : ∀ file ∈ files, file.Sound)
    (hadds : FileDiff.Adds files path line) : line.LocatedAt (Finding.placeOf line.number) := by
  obtain ⟨file, hfile, -, hline⟩ := hadds
  obtain ⟨n, hn⟩ := Int.eq_ofNat_of_zero_le ((hsound file hfile).numbers line hline)
  exact ⟨n, hn, by rw [hn]; rfl⟩

/-- What both passes make of an added line is anchored there. -/
theorem anchored_make (hsound : ∀ file ∈ files, file.Sound) (hadds : FileDiff.Adds files path line)
    {rule area why : Text} (hrule : rule ≠ []) (harea : area ≠ []) (hwhy : why ≠ [])
    (severity : Severity) (rest suggestion : Text) :
    (Finding.make rule area severity.name path (Finding.placeOf line.number)
      ["[" ++ Finding.placeOf line.number ++ "] " ++ rest] why suggestion).Anchored files line where
  path := hadds.mem_changedPaths
  adds := hadds
  place := locatedAt_placeOf hsound hadds
  evidence := ⟨rest, rfl⟩
  severity := by cases severity <;> simp [Finding.make, Severity.name]
  rule := hrule
  area := harea
  why := hwhy
  fingerprint := Fingerprint.ofText_digits _

/-- The evidence of a rule, its place apart. -/
theorem quotation_matched (line : AddedLine) :
    Finding.quotation line.number line.text "Matched signal"
      = "[" ++ Finding.placeOf line.number ++ "] "
        ++ ("Matched signal: \"" ++ line.quote ++ "\"") := by
  simp only [Finding.quotation, List.append_assoc]
  rfl

theorem anchored_findingOn (hsound : ∀ file ∈ files, file.Sound)
    (hadds : FileDiff.Adds files path line) {rule : RuleConstraint} (hrule : rule.id ≠ []) :
    (RulePass.findingOn rule path line).Anchored files line := by
  have harea : (if rule.area.isEmpty then ("general" : Text) else rule.area) ≠ [] := by
    cases h : rule.area with
    | nil => simp [Text.ofString]
    | cons c t => simp
  rw [RulePass.findingOn, quotation_matched]
  exact anchored_make hsound hadds hrule harea (by decide) rule.severity _ _

theorem anchored_boundary (hsound : ∀ file ∈ files, file.Sound)
    (hadds : FileDiff.Adds files path line) (rules : Option RuleSet) (specifier : Text)
    (boundary : BoundaryRule) :
    (BoundaryPass.findingOn rules path specifier line boundary).Anchored files line := by
  have hrule : boundary.findingRule ≠ [] := by
    simp [BoundaryRule.findingRule, Text.ofString]
  have harea : (boundary.grading rules).1 ≠ [] := by
    unfold BoundaryRule.grading
    split
    · exact (show BoundaryRule.defaultArea ≠ [] by decide)
    · split
      · exact (show BoundaryRule.defaultArea ≠ [] by decide)
      · rename_i harea
        simpa using harea
  have hwhy : boundary.reason ≠ [] := by
    unfold BoundaryRule.reason
    split
    · decide
    · decide
    · rename_i hne _
      exact fun h => hne (by rw [h])
  have hevidence : ("[" : Text) ++ Finding.placeOf line.number
      ++ "] Forbidden import per boundaries: " ++ ([Import.backquote] ++ specifier
      ++ [Import.backquote]) = "[" ++ Finding.placeOf line.number ++ "] "
        ++ ("Forbidden import per boundaries: " ++ ([Import.backquote] ++ specifier
          ++ [Import.backquote])) := by
    simp only [List.append_assoc]
    rfl
  rw [BoundaryPass.findingOn, hevidence]
  exact anchored_make hsound hadds hrule harea hwhy (boundary.grading rules).2 _ _

/-! ### The rule pass -/

theorem trimAfter_sublist (options : ReviewOptions) (fs : List Finding) :
    ∀ kept, (options.trimAfter kept fs).Sublist fs := by
  induction fs with
  | nil => intro kept; exact List.Sublist.refl []
  | cons f fs ih =>
      intro kept
      rw [ReviewOptions.trimAfter]
      split
      · exact List.nil_sublist _
      · split
        · exact (ih kept).cons f
        · exact (ih (f.file :: kept)).cons_cons f

/-- Caps only leave findings out. -/
theorem trim_sublist (options : ReviewOptions) (fs : List Finding) :
    (options.trim fs).Sublist fs := trimAfter_sublist options fs []

variable {options : ReviewOptions} {rules : List RuleConstraint} {review : Review}

/-- Every finding of the rules is that of a rule on an added line of some path. -/
theorem exists_of_mem_ruled [Host]
    (h : RuleConstraint.applyAll options (FileDiff.addedByFile files) rules = .ok review) :
    ∀ f ∈ review.findings, ∃ rule ∈ rules, ∃ path line, FileDiff.Adds files path line ∧
      f = RulePass.findingOn rule path line := by
  intro f hf
  rw [(RulePass.applyAll_eq_ok h).1] at hf
  obtain ⟨rule, hrule, hf⟩ := List.mem_flatMap.mp hf
  obtain ⟨entry, hentry, hf⟩ := List.mem_flatMap.mp ((trim_sublist _ _).subset hf)
  obtain ⟨line, hline, rfl⟩ := List.mem_map.mp hf
  exact ⟨rule, (List.mem_filter.mp hrule).1, entry.path, line,
    FileDiff.adds_of_mem_addedByFile (List.mem_filter.mp hentry).1 (List.mem_filter.mp hline).1, rfl⟩

/-- Every task is that of a rule on an added line of some path. -/
theorem exists_of_mem_tasks [Host]
    (h : RuleConstraint.applyAll options (FileDiff.addedByFile files) rules = .ok review) :
    ∀ task ∈ review.tasks, ∃ rule path line, FileDiff.Adds files path line ∧
      task = RulePass.taskOn rule path line := by
  intro task htask
  rw [(RulePass.applyAll_eq_ok h).2] at htask
  obtain ⟨rule, -, htask⟩ := List.mem_flatMap.mp htask
  obtain ⟨entry, hentry, htask⟩ := List.mem_flatMap.mp htask
  obtain ⟨line, hline, rfl⟩ := List.mem_map.mp htask
  exact ⟨rule, entry.path, line,
    FileDiff.adds_of_mem_addedByFile (List.mem_filter.mp hentry).1 hline, rfl⟩

theorem anchored_taskOn (hsound : ∀ file ∈ files, file.Sound)
    (hadds : FileDiff.Adds files path line) (rule : RuleConstraint) :
    (RulePass.taskOn rule path line).Anchored files line where
  path := hadds.mem_changedPaths
  adds := hadds
  place := locatedAt_placeOf hsound hadds
  snippet := List.take_prefix 240 line.text

/-! ### A whole review -/

/-- A finding of the rules quotes its line. -/
def QuotesLine (line : AddedLine) (f : Finding) : Prop :=
  f.evidence = ["[" ++ f.locator ++ "] " ++ ("Matched signal: \"" ++ line.quote ++ "\"")]

/-- A finding of the boundaries quotes what its line imports. -/
def QuotesImport (line : AddedLine) (f : Finding) : Prop :=
  ∃ specifier, Import.specifier? line.text = some specifier ∧
    f.evidence = ["[" ++ f.locator ++ "] Forbidden import per boundaries: "
      ++ ([Import.backquote] ++ specifier ++ [Import.backquote])]

/-- **The findings of the rules are anchored.** -/
theorem anchored_of_mem_ruled [Host] {document : Json} {set : Option RuleSet}
    (hsound : ∀ file ∈ files, file.Sound) (hset : RuleSet.ofJson document = .ok set)
    (h : ofRules options set files = .ok review) :
    ∀ f ∈ review.findings, ∃ line, f.Anchored files line ∧ QuotesLine line f := by
  intro f hf
  obtain ⟨rule, hrule, path, line, hadds, rfl⟩ := exists_of_mem_ruled h f hf
  have hquotes : QuotesLine line (RulePass.findingOn rule path line) :=
    congrArg (fun first => [first]) (quotation_matched line)
  exact ⟨line, anchored_findingOn hsound hadds (RuleConstraint.id_ne_nil hset rule hrule), hquotes⟩

/-- **The findings of the boundaries are anchored.** -/
theorem anchored_of_mem_bounded {policy : Option Boundaries} {set : Option RuleSet}
    {bounded : List Finding} (hsound : ∀ file ∈ files, file.Sound)
    (h : boundaryFindings policy set files = .ok bounded) :
    ∀ f ∈ bounded, ∃ line, f.Anchored files line ∧ QuotesImport line f := by
  intro f hf
  cases policy with
  | none => rw [← Except.ok.inj h] at hf; simp at hf
  | some policy =>
      rw [BoundaryPass.findings_eq_ok h] at hf
      obtain ⟨file, hfile, line, hline, specifier, boundary, hs, rfl⟩ :=
        BoundaryPass.exists_of_mem_findings hf
      exact ⟨line, anchored_boundary hsound ⟨file, hfile, rfl, hline⟩ set specifier boundary,
        specifier, hs, rfl⟩

/-- **Every result is anchored in the diff.**  The findings of a review are those of its rules and
behind them those of its boundaries; each is about an added line of the diff and quotes it or its
import, and each task is about such a line and shows its beginning. -/
theorem ofDiff_anchored [Host] {diff : Text} {document boundaries : Json}
    (h : ofDiff diff document boundaries options = .ok review) :
    ∃ files ruled bounded, FileDiff.parse diff = .ok files ∧
      byRules diff document options = .ok { findings := ruled, tasks := review.tasks } ∧
      review.findings = ruled ++ bounded ∧
      (∀ f ∈ ruled, ∃ line, f.Anchored files line ∧ QuotesLine line f) ∧
      (∀ f ∈ bounded, ∃ line, f.Anchored files line ∧ QuotesImport line f) ∧
      ∀ task ∈ review.tasks, ∃ line, task.Anchored files line := by
  obtain ⟨files, set, policy, ruled, bounded, hfiles, hset, -, hruled, hbounded, hfindings⟩ :=
    ofDiff_eq_ok h
  have hsound := FileDiff.sound_of_parse hfiles
  refine ⟨files, ruled, bounded, hfiles, byRules_eq_ok.mpr ⟨files, set, hfiles, hset, hruled⟩,
    hfindings, anchored_of_mem_ruled hsound hset hruled, anchored_of_mem_bounded hsound hbounded, ?_⟩
  intro task htask
  obtain ⟨rule, path, line, hadds, rfl⟩ := exists_of_mem_tasks hruled task htask
  exact ⟨line, anchored_taskOn hsound hadds rule⟩

/-- A document that forbids the import of the mixed diff. -/
def mixedBoundaries : Json :=
  .object [("forbidden", .array
    [.object [("rule", .string "no-db"), ("from", .object [("glob", .string "**")]),
      ("to", .object [("glob", .string "db")])]])]

/-- The review of the mixed diff comes about: one finding of a rule and one of the boundaries. -/
theorem exists_mixed :
    ∃ review, ofDiff RulePass.mixedDiff RulePass.mixedRules mixedBoundaries {} = .ok review ∧
      review.findings.length = 2 ∧ review.tasks.length = 2 := by
  have hcount : ((ofDiff RulePass.mixedDiff RulePass.mixedRules mixedBoundaries {}).toOption.map
      fun review => (review.findings.length, review.tasks.length)) = some (2, 2) := by
    decide +kernel
  obtain ⟨review, h, hreview⟩ := Outcome.exists_ok_of_toOption hcount
  exact ⟨review, h, Prod.mk.inj hreview⟩

theorem ofDiff_anchored_mixed :
    ∃ review, ofDiff RulePass.mixedDiff RulePass.mixedRules mixedBoundaries {} = .ok review ∧
      review.findings.length = 2 ∧ review.tasks.length = 2 ∧
      ∃ files ruled bounded, FileDiff.parse RulePass.mixedDiff = .ok files ∧
        byRules RulePass.mixedDiff RulePass.mixedRules {}
          = .ok { findings := ruled, tasks := review.tasks } ∧
        review.findings = ruled ++ bounded ∧
        (∀ f ∈ ruled, ∃ line, f.Anchored files line ∧ QuotesLine line f) ∧
        (∀ f ∈ bounded, ∃ line, f.Anchored files line ∧ QuotesImport line f) ∧
        ∀ task ∈ review.tasks, ∃ line, task.Anchored files line := by
  obtain ⟨review, h, hfindings, htasks⟩ := exists_mixed
  exact ⟨review, h, hfindings, htasks, ofDiff_anchored h⟩

end Review

end PatchReview
