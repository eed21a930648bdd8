/-
When a review comes to a result.

A review forgives almost everything: a diff that is no diff, a document that is no
document, a pattern that is no pattern.  What it cannot do is read or write a numeral
beyond the limit, count a repetition beyond what can be counted, and go deeper into what
is nested than the stack of its host bears; nor can a pattern ask for ASCII and for
Unicode at once.  Where none of this is asked of it, a review comes to a result, and where
a header asks for it, a review does not, whatever else it is given.
-/
import PatchReview.Proofs.Boundary.Load
import PatchReview.Proofs.Diff.Numerals
import PatchReview.Proofs.Regex.Parser
import PatchReview.Proofs.Review.RulePass
import PatchReview.Proofs.Rule.Load

namespace PatchReview

/-- A value that any host can display: its numbers can be written, and it is not nested too deep. -/
structure Json.Displayable (v : Json) : Prop where
  numbers : v.isWritable = true
  /-- Displaying an array or an object displays what is in it, and each level is one more on the
  stack, which is not a part of `Json.display`. -/
  levels : v.nesting ≤ Host.commonNesting

/-! ### A line -/

namespace Finding

variable {number : Int}

theorem exists_lineLocator_eq_ok (h : Decimal.isWritable number.natAbs = true) :
    ∃ t, lineLocator number = .ok t :=
  Outcome.exists_bind_eq_ok (Json.exists_write_eq_ok h) fun _ _ => ⟨_, rfl⟩

theorem exists_evidenceLine_eq_ok (h : Decimal.isWritable number.natAbs = true)
    (text message : Text) : ∃ t, evidenceLine number text message = .ok t :=
  Outcome.exists_bind_eq_ok (exists_lineLocator_eq_ok h) fun _ _ => ⟨_, rfl⟩

end Finding

/-- Added lines whose numbers can be written. -/
def AddedLine.Writable (lines : List AddedLine) : Prop :=
  ∀ line ∈ lines, Decimal.isWritable line.number.natAbs = true

/-- A trigger all of whose signals and exemptions are orderly. -/
def Trigger.Orderly (trigger : Trigger) : Prop :=
  ∀ signal ∈ trigger.signals ++ trigger.exempt, Signal.Orderly signal

instance (trigger : Trigger) : Decidable trigger.Orderly :=
  inferInstanceAs (Decidable (∀ signal ∈ trigger.signals ++ trigger.exempt, Signal.Orderly signal))

/-! ### The rules -/

namespace RuleConstraint

variable [Host] {rule : RuleConstraint} {options : ReviewOptions} {entry : PathLines} {path : Text}
  {line : AddedLine}

omit [Host] in
theorem exists_finding_eq_ok (h : Decimal.isWritable line.number.natAbs = true) :
    ∃ f, rule.finding path line = .ok f := by
  refine Outcome.exists_bind_eq_ok (Finding.exists_evidenceLine_eq_ok h _ _) fun _ _ => ?_
  exact Outcome.exists_bind_eq_ok (Finding.exists_lineLocator_eq_ok h) fun _ _ => ⟨_, rfl⟩

omit [Host] in
theorem exists_task_eq_ok (h : Decimal.isWritable line.number.natAbs = true) :
    ∃ task, rule.task path line = .ok task :=
  Outcome.exists_bind_eq_ok (Finding.exists_lineLocator_eq_ok h) fun _ _ => ⟨_, rfl⟩

/-- Signals that can be made ready can be asked of every line. -/
theorem exists_reported_eq_ok
    (h : ∀ s ∈ rule.trigger.signals, ∃ ready, Signal.compile s = .ok ready) :
    ∃ lines, rule.reported options entry = .ok lines := by
  unfold reported
  split
  · refine Outcome.exists_bind_eq_ok ⟨_, Signal.anyMatches_of_compile h⟩ fun found _ => ?_
    split
    · exact ⟨_, Outcome.filterM_eq_ok fun line _ => Signal.lineMatches_eq h⟩
    · exact ⟨[], rfl⟩
  · exact ⟨entry.lines, rfl⟩

theorem exists_findingsIn_eq_ok (hhost : Host.Adequate) (horderly : rule.trigger.Orderly)
    (hlines : AddedLine.Writable entry.lines) : ∃ fs, rule.findingsIn options entry = .ok fs := by
  have hready : ∀ s ∈ rule.trigger.signals ++ rule.trigger.exempt,
      ∃ ready, Signal.compile s = .ok ready :=
    fun s hs => Signal.exists_compile_eq_ok hhost (horderly s hs)
  refine Outcome.exists_bind_eq_ok ⟨_, Signal.anyMatches_of_compile fun s hs =>
    hready s (List.mem_append_right _ hs)⟩ fun exempt _ => ?_
  split
  · exact ⟨[], rfl⟩
  refine Outcome.exists_bind_eq_ok (exists_reported_eq_ok fun s hs =>
    hready s (List.mem_append_left _ hs)) fun lines hreported => ?_
  rw [RulePass.reported_eq_ok hreported]
  refine Outcome.exists_mapError_eq_ok (Outcome.exists_mapM_eq_ok fun line hline => ?_)
  exact exists_finding_eq_ok (hlines line (List.mem_filter.mp hline).1)

omit [Host] in
theorem exists_tasksIn_eq_ok (hlines : AddedLine.Writable entry.lines) :
    ∃ tasks, rule.tasksIn entry = .ok tasks :=
  Outcome.exists_mapError_eq_ok (Outcome.exists_mapM_eq_ok fun line hline =>
    exists_task_eq_ok (hlines line hline))

variable {entries : List PathLines}

theorem exists_apply_eq_ok (hhost : Host.Adequate) (horderly : rule.trigger.Orderly)
    (hentries : ∀ entry ∈ entries, AddedLine.Writable entry.lines) :
    ∃ part, rule.apply options entries = .ok part := by
  have hscope : ∀ entry ∈ rule.scope entries, AddedLine.Writable entry.lines :=
    fun entry hentry => hentries entry (List.mem_filter.mp hentry).1
  unfold apply
  split
  · exact ⟨_, rfl⟩
  · refine Outcome.exists_bind_eq_ok (Outcome.exists_mapM_eq_ok fun entry hentry => ?_)
      fun _ _ => ⟨_, rfl⟩
    exact exists_tasksIn_eq_ok (hscope entry hentry)
  · refine Outcome.exists_bind_eq_ok (Outcome.exists_mapM_eq_ok fun entry hentry => ?_)
      fun _ _ => ⟨_, rfl⟩
    exact exists_findingsIn_eq_ok hhost horderly (hscope entry hentry)

theorem exists_applyAll_eq_ok (hhost : Host.Adequate) {rules : List RuleConstraint}
    (horderly : ∀ rule ∈ rules, rule.trigger.Orderly)
    (hentries : ∀ entry ∈ entries, AddedLine.Writable entry.lines) :
    ∃ review, applyAll options entries rules = .ok review := by
  induction rules with
  | nil => exact ⟨{}, rfl⟩
  | cons rule rules ih =>
      refine Outcome.exists_bind_eq_ok
        (exists_apply_eq_ok hhost (horderly rule (by simp)) hentries) fun _ _ => ?_
      exact Outcome.exists_bind_eq_ok (ih fun r hr => horderly r (by simp [hr]))
        fun _ _ => ⟨_, rfl⟩

end RuleConstraint

/-! ### The boundaries -/

theorem Boundaries.exists_findings_eq_ok {boundaries : Boundaries} {set : Option RuleSet}
    {files : List FileDiff} (h : ∀ file ∈ files, AddedLine.Writable file.addedLines) :
    ∃ fs, boundaries.findings set files = .ok fs := by
  have hline : ∀ (path : Text) (line : AddedLine), Decimal.isWritable line.number.natAbs = true →
      ∃ fs, boundaries.findingsOn set path line = .ok fs := by
    intro path line hline
    unfold Boundaries.findingsOn
    split
    · exact ⟨[], rfl⟩
    · refine Outcome.exists_mapM_eq_ok fun boundary _ => ?_
      exact Outcome.exists_bind_eq_ok (Finding.exists_lineLocator_eq_ok hline) fun _ _ => ⟨_, rfl⟩
  refine Outcome.exists_bind_eq_ok (Outcome.exists_mapM_eq_ok fun file hfile => ?_)
    fun _ _ => ⟨_, rfl⟩
  exact Outcome.exists_bind_eq_ok (Outcome.exists_mapM_eq_ok fun line hl =>
    hline file.path line (h file hfile line hl)) fun _ _ => ⟨_, rfl⟩

/-! ### A whole review -/

namespace Review

section

variable [Host] {diff : Text} {document boundaries : Json}

theorem exists_ofRules_eq_ok (hhost : Host.Adequate) {options : ReviewOptions}
    {set : Option RuleSet} {files : List FileDiff}
    (horderly : ∀ rule ∈ RuleSet.loaded set, rule.effectiveTrigger.Orderly)
    (hfiles : ∀ file ∈ files, AddedLine.Writable file.addedLines) :
    ∃ review, ofRules options set files = .ok review := by
  refine RuleConstraint.exists_applyAll_eq_ok hhost (fun constraint hconstraint => ?_)
    fun entry hentry line hline => ?_
  · rw [RuleConstraint.ofRules_eq] at hconstraint
    obtain ⟨rule, hrule, rfl⟩ := List.mem_map.mp hconstraint
    exact horderly rule hrule
  · obtain ⟨file, hfile, -, hline⟩ := FileDiff.adds_of_mem_addedByFile hentry hline
    exact hfiles file hfile line hline

/-- **When a review comes to a result.**  It does so on every adequate host, for every diff whose
headers can be read and whose lines can be numbered, for all values as documents that can be
displayed, and for all signals and exemptions that are orderly, be their patterns broken or not. -/
theorem ofDiff_returns (hhost : Host.Adequate) (hreadable : FileDiff.HeadersReadable diff)
    (hnumbered : FileDiff.LinesNumbered diff) (hdocument : document.Displayable)
    (hboundaries : boundaries.Displayable)
    (horderly : ∀ set, RuleSet.ofJson document = .ok set →
      ∀ rule ∈ RuleSet.loaded set, rule.effectiveTrigger.Orderly)
    (options : ReviewOptions) :
    ∃ files review, FileDiff.parse diff = .ok files ∧
      ofDiff diff document boundaries options = .ok review := by
  obtain ⟨files, hfiles⟩ := FileDiff.exists_parse_eq_ok hreadable
  obtain ⟨set, hset⟩ := RuleSet.exists_ofJson_eq_ok hdocument.numbers
  obtain ⟨policy, hpolicy⟩ := Boundaries.exists_ofJson_eq_ok hboundaries.numbers
  have hwritable : ∀ file ∈ files, AddedLine.Writable file.addedLines :=
    FileDiff.writable_of_parse hnumbered hfiles
  have hbounded : ∃ bounded, boundaryFindings policy set files = .ok bounded := by
    cases policy with
    | none => exact ⟨[], rfl⟩
    | some policy => exact Boundaries.exists_findings_eq_ok hwritable
  obtain ⟨review, hreview⟩ := exists_ofDiff_eq_ok hfiles hset hpolicy
    (exists_ofRules_eq_ok hhost (horderly set hset) hwritable) hbounded
  exact ⟨files, review, hfiles, hreview⟩

end

/-- A document whose rule has a pattern with bounds, a broken one, one with a name and one with
flags. -/
def patternRules : Json :=
  .object [("rules", .array
    [.object [("id", .int 7),
      ("trigger", .object
        [("requireSignalMatch", .bool true),
          ("signals", Json.strings
            ["regex:O\x7b1,2\x7d", "regex:x\x7b2", "regex:(", "regex:(\\N\x7bEM DASH\x7d)"]),
          ("exempt", Json.strings ["regex:(?a)\\d\x7b4\x7d"])])]])]

theorem ofDiff_returns_patterns :
    ∃ files review, FileDiff.parse RulePass.mixedDiff = .ok files ∧
      ofDiff RulePass.mixedDiff patternRules (.string "none") {} = .ok review := by
  have hdecided : ((RuleSet.ofJson patternRules).toOption.map fun set =>
      decide (∀ rule ∈ RuleSet.loaded set, rule.effectiveTrigger.Orderly)) = some true := by
    decide +kernel
  have horderly : ∀ set, RuleSet.ofJson patternRules = .ok set →
      ∀ rule ∈ RuleSet.loaded set, rule.effectiveTrigger.Orderly :=
    fun set hset => of_decide_eq_true (Outcome.eq_of_toOption hdecided set hset)
  exact ofDiff_returns Host.adequate_small (by decide +kernel) (by decide +kernel)
    ⟨by decide +kernel, by decide +kernel⟩ ⟨by decide +kernel, by decide +kernel⟩ horderly {}

/-- A diff that cannot be parsed cannot be reviewed. -/
theorem ofDiff_of_parse_error [Host] {diff : Text} {e : NumeralError}
    (h : FileDiff.parse diff = .error e) (document boundaries : Json) (options : ReviewOptions) :
    ofDiff diff document boundaries options = .error (.numeral e) := by
  rw [ofDiff, parsed, h]
  rfl

/-- A numeral with one digit more than can be read. -/
def longNumeral : Text := List.replicate (Decimal.digitLimit + 1) '9'

/-- **A review may be refused for a single header**, whatever the documents and the options are. -/
theorem ofDiff_longNumeral :
    FileDiff.parse (FileDiff.headed longNumeral "+x") = .error (.tooLongToRead 4301) ∧
      ∀ document boundaries options,
        ofDiff (FileDiff.headed longNumeral "+x") document boundaries options
          = .error (.numeral (.tooLongToRead 4301)) := by
  have hdecimal : ∀ c ∈ longNumeral, c.isDigit = true := by
    intro c hc
    rw [List.eq_of_mem_replicate hc]
    decide
  have hlength : longNumeral.length = 4301 := List.length_replicate
  have hparse : FileDiff.parse (FileDiff.headed longNumeral "+x")
      = .error (.tooLongToRead 4301) := by
    rw [FileDiff.parse_headed hdecimal (by rw [hlength]; decide), hlength]
  exact ⟨hparse, ofDiff_of_parse_error hparse⟩

end Review

end PatchReview
