/-
The rule pass, said without its steps.

What the rules of a document report is an enumeration: rule by rule in the order of the
document, path by path in the order in which the diff first names them, line by line in
the order of the diff.  A rule is about the paths that its globs admit; one matched
exemption takes a whole path out; a signal is asked of each line for itself.  A review
that comes to a result has exactly these findings, each once, and the tasks are the same
enumeration over the rules for the other reviewer, without exemptions and signals.
-/
import PatchReview.Proofs.Diff.Merge
import PatchReview.Proofs.Finding.Evidence
import PatchReview.Proofs.Review.Run
import PatchReview.Proofs.Signal

namespace PatchReview

/-- Without caps: a cap of zero bounds nothing either. -/
def ReviewOptions.Uncapped (options : ReviewOptions) : Prop :=
  options.capPerFile.getD 0 = 0 ∧ options.capTotal.getD 0 = 0

theorem ReviewOptions.reached_of_getD_eq_zero {cap : Option Int} (h : cap.getD 0 = 0)
    (count : Nat) : ReviewOptions.reached cap count = false := by
  cases cap with
  | none => rfl
  | some bound =>
      have hbound : bound = 0 := h
      simp [reached, hbound]

namespace RulePass

/-! ### The enumeration -/

/-- The rules that report findings. -/
def reporting (rules : List RuleConstraint) : List RuleConstraint :=
  rules.filter fun rule => rule.trigger.kind?.any fun kind => kind ≠ .llm

/-- The rules that hand lines to another reviewer. -/
def deferring (rules : List RuleConstraint) : List RuleConstraint :=
  rules.filter fun rule => rule.trigger.kind? = some .llm

/-- The rules of a known type. -/
def known (rules : List RuleConstraint) : List RuleConstraint :=
  rules.filter fun rule => rule.trigger.kind?.isSome

/-- Whether a rule is about a path: lines are added there, and a glob admits it if there is any. -/
def inScope (rule : RuleConstraint) (entry : PathLines) : Bool :=
  !entry.lines.isEmpty && (rule.trigger.fileGlobs.isEmpty ||
    rule.trigger.fileGlobs.any fun glob => Glob.isMatch glob entry.path)

/-- Whether an exemption matches a line of a path. -/
def exempted [Host] (rule : RuleConstraint) (entry : PathLines) : Bool :=
  entry.lines.any fun line => Signal.someMatches rule.trigger.exempt line.text

/-- Whether a rule asks for a signal. -/
def asksSignal (options : ReviewOptions) (rule : RuleConstraint) : Bool :=
  rule.trigger.requireSignal || (options.strictSignals && !rule.trigger.signals.isEmpty)

/-- Whether a rule reports a line of a path that is not exempted. -/
def reports [Host] (options : ReviewOptions) (rule : RuleConstraint) (line : AddedLine) : Bool :=
  !asksSignal options rule || Signal.someMatches rule.trigger.signals line.text

/-- The finding of a rule on a line. -/
def findingOn (rule : RuleConstraint) (path : Text) (line : AddedLine) : Finding :=
  Finding.make rule.id (if rule.area.isEmpty then "general" else rule.area) rule.severity.name path
    (Finding.placeOf line.number) [Finding.quotation line.number line.text "Matched signal"]
    "Added line matches rule signal and is not exempted."
    "Review and apply the project guideline for this rule."

/-- The task on a line. -/
def taskOn (rule : RuleConstraint) (path : Text) (line : AddedLine) : LlmTask :=
  { ruleId := rule.id, file := path, locator := Finding.placeOf line.number
    snippet := line.text.take 240 }

/-- The findings of a rule. -/
def findingsOf [Host] (options : ReviewOptions) (entries : List PathLines) (rule : RuleConstraint) :
    List Finding :=
  (entries.filter fun entry => inScope rule entry && !exempted rule entry).flatMap fun entry =>
    (entry.lines.filter (reports options rule)).map (findingOn rule entry.path)

/-- The findings of all rules, those of each rule trimmed for themselves. -/
def trimmed [Host] (options : ReviewOptions) (entries : List PathLines)
    (rules : List RuleConstraint) : List Finding :=
  (reporting rules).flatMap fun rule => options.trim (findingsOf options entries rule)

/-- The tasks of a rule. -/
def tasksOf (entries : List PathLines) (rule : RuleConstraint) : List LlmTask :=
  (entries.filter (inScope rule)).flatMap fun entry => entry.lines.map (taskOn rule entry.path)

/-- The entries of a diff: each path where it first appears, with the added lines of all its
sections. -/
def entriesOf (files : List FileDiff) : List PathLines :=
  (files.map FileDiff.path).eraseDups.map fun path =>
    ⟨path, (files.filter fun file => file.path = path).flatMap FileDiff.addedLines⟩

/-- **All findings of the rules, enumerated.** -/
def findings [Host] (options : ReviewOptions) (rules : List RuleConstraint)
    (files : List FileDiff) : List Finding :=
  (reporting rules).flatMap (findingsOf options (entriesOf files))

/-- **All tasks of the rules, enumerated.** -/
def tasks (rules : List RuleConstraint) (files : List FileDiff) : List LlmTask :=
  (deferring rules).flatMap (tasksOf (entriesOf files))

theorem entriesOf_eq (files : List FileDiff) : entriesOf files = FileDiff.addedByFile files := by
  rw [FileDiff.addedByFile_eq, FileDiff.changedPaths_eq]
  rfl

/-! ### A line -/

variable {rule : RuleConstraint} {options : ReviewOptions} {entry : PathLines}

theorem finding_eq_ok {path : Text} {line : AddedLine} {f : Finding}
    (h : rule.finding path line = .ok f) : f = findingOn rule path line := by
  obtain ⟨evidence, hevidence, h⟩ := Outcome.bind_eq_ok.mp h
  obtain ⟨place, hplace, h⟩ := Outcome.bind_eq_ok.mp h
  rw [← Outcome.pure_eq_ok.mp h, Finding.evidenceLine_eq_ok hevidence,
    Finding.lineLocator_eq_ok hplace]
  rfl

theorem task_eq_ok {path : Text} {line : AddedLine} {task : LlmTask}
    (h : rule.task path line = .ok task) : task = taskOn rule path line := by
  obtain ⟨place, hplace, h⟩ := Outcome.bind_eq_ok.mp h
  rw [← Outcome.pure_eq_ok.mp h, Finding.lineLocator_eq_ok hplace]
  rfl

/-! ### A path -/

theorem exempts_eq_ok [Host] {b : Bool} (h : rule.exempts entry = .ok b) :
    b = exempted rule entry := by
  rw [(Signal.anyMatches_eq_ok h).2, PathLines.texts, List.any_map]
  rfl

/-- **Leaving a file without a signal at once changes nothing**: there no line would be reported. -/
theorem reported_eq_ok [Host] {lines : List AddedLine}
    (h : rule.reported options entry = .ok lines) :
    lines = entry.lines.filter (reports options rule) := by
  rw [RuleConstraint.reported] at h
  by_cases hasks : rule.needsSignal options = true
  · have hreports : ∀ line, reports options rule line
        = Signal.someMatches rule.trigger.signals line.text := by
      intro line
      rw [reports, show asksSignal options rule = true from hasks]
      rfl
    rw [if_pos hasks] at h
    obtain ⟨found, hfound, h⟩ := Outcome.bind_eq_ok.mp h
    obtain ⟨hready, hany⟩ := Signal.anyMatches_eq_ok hfound
    cases found with
    | true =>
        simp only [if_true] at h
        rw [Outcome.filterM_eq_ok fun line _ => Signal.lineMatches_eq hready] at h
        rw [← Except.ok.inj h, List.filter_congr fun line _ => (hreports line).symm]
    | false =>
        simp only [Bool.false_eq_true, if_false] at h
        rw [← Outcome.pure_eq_ok.mp h, eq_comm, List.filter_eq_nil_iff]
        intro line hline hrep
        have hmatch : (entry.texts.any (Signal.someMatches rule.trigger.signals)) = true :=
          List.any_eq_true.mpr ⟨line.text, List.mem_map.mpr ⟨line, hline, rfl⟩,
            (hreports line).symm.trans hrep⟩
        rw [← hany] at hmatch
        exact absurd hmatch (by simp)
  · have hall : ∀ line ∈ entry.lines, reports options rule line = true := by
      intro line _
      rw [reports, show asksSignal options rule = false from Bool.eq_false_iff.mpr hasks]
      rfl
    rw [if_neg hasks] at h
    rw [← Except.ok.inj h, List.filter_eq_self.mpr hall]

theorem findingsIn_eq_ok [Host] {fs : List Finding} (h : rule.findingsIn options entry = .ok fs) :
    fs = if exempted rule entry then []
      else (entry.lines.filter (reports options rule)).map (findingOn rule entry.path) := by
  obtain ⟨exempt, hexempt, h⟩ := Outcome.bind_eq_ok.mp h
  rw [← exempts_eq_ok hexempt]
  cases exempt with
  | true =>
      simp only [if_true] at h
      simp [← Outcome.pure_eq_ok.mp h]
  | false =>
      simp only [Bool.false_eq_true, if_false] at h
      obtain ⟨lines, hlines, h⟩ := Outcome.bind_eq_ok.mp h
      rw [if_neg (by simp), ← reported_eq_ok hlines]
      exact Outcome.mapM_eq_map (Outcome.mapError_eq_ok.mp h) fun line _ f hf => finding_eq_ok hf

theorem tasksIn_eq_ok {ts : List LlmTask} (h : rule.tasksIn entry = .ok ts) :
    ts = entry.lines.map (taskOn rule entry.path) :=
  Outcome.mapM_eq_map (Outcome.mapError_eq_ok.mp h) fun _ _ _ ht => task_eq_ok ht

/-! ### A rule -/

theorem scope_eq (rule : RuleConstraint) (entries : List PathLines) :
    rule.scope entries = entries.filter (inScope rule) := rfl

/-- An exempted path adds nothing, so it may as well be left out. -/
theorem flatMap_scope [Host] (entries : List PathLines) :
    (entries.filter (inScope rule)).flatMap (fun entry => if exempted rule entry then []
      else (entry.lines.filter (reports options rule)).map (findingOn rule entry.path))
      = findingsOf options entries rule := by
  induction entries with
  | nil => rfl
  | cons entry entries ih =>
      rw [findingsOf] at ih ⊢
      by_cases hscope : inScope rule entry = true
      · by_cases hexempt : exempted rule entry = true
        · simpa [hscope, hexempt] using ih
        · simpa [hscope, hexempt] using ih
      · simpa [hscope] using ih

theorem findings_flatten [Host] {entries : List PathLines} {found : List (List Finding)}
    (h : (rule.scope entries).mapM (rule.findingsIn options) = .ok found) :
    found.flatten = findingsOf options entries rule := by
  rw [Outcome.mapM_eq_map h fun _ _ _ hf => findingsIn_eq_ok hf, ← List.flatMap_def, scope_eq,
    flatMap_scope]

theorem tasks_flatten {entries : List PathLines} {found : List (List LlmTask)}
    (h : (rule.scope entries).mapM rule.tasksIn = .ok found) :
    found.flatten = tasksOf entries rule := by
  rw [Outcome.mapM_eq_map h fun _ _ _ ht => tasksIn_eq_ok ht, ← List.flatMap_def]
  rfl

/-- **What one rule comes to**, by its type. -/
theorem apply_eq_ok [Host] {entries : List PathLines} {review : Review}
    (h : rule.apply options entries = .ok review) :
    review = match rule.trigger.kind? with
      | none => {}
      | some .llm => { tasks := tasksOf entries rule }
      | some _ => { findings := options.trim (findingsOf options entries rule) } := by
  unfold RuleConstraint.apply at h
  cases hkind : rule.trigger.kind? with
  | none =>
      rw [hkind] at h
      exact (Outcome.pure_eq_ok.mp h).symm
  | some kind =>
      rw [hkind] at h
      cases kind with
      | llm =>
          obtain ⟨found, hfound, h⟩ := Outcome.bind_eq_ok.mp h
          rw [← Outcome.pure_eq_ok.mp h, tasks_flatten hfound]
      | pattern | heuristic | hybrid =>
          obtain ⟨found, hfound, h⟩ := Outcome.bind_eq_ok.mp h
          rw [← Outcome.pure_eq_ok.mp h, findings_flatten hfound]

/-! ### All rules -/

/-- **What the rules come to**: the findings of each rule, trimmed, and the tasks of each rule. -/
theorem applyAll_eq_ok [Host] {entries : List PathLines} {rules : List RuleConstraint}
    {review : Review} (h : RuleConstraint.applyAll options entries rules = .ok review) :
    review.findings
        = (reporting rules).flatMap (fun rule => options.trim (findingsOf options entries rule)) ∧
      review.tasks = (deferring rules).flatMap (tasksOf entries) := by
  induction rules generalizing review with
  | nil =>
      rw [← Except.ok.inj h]
      exact ⟨rfl, rfl⟩
  | cons rule rules ih =>
      obtain ⟨first, hfirst, h⟩ := Outcome.bind_eq_ok.mp h
      obtain ⟨others, hothers, h⟩ := Outcome.bind_eq_ok.mp h
      obtain ⟨hfindings, htasks⟩ := ih hothers
      have hparts : review.findings = first.findings ++ others.findings ∧
          review.tasks = first.tasks ++ others.tasks := by
        rw [← Outcome.pure_eq_ok.mp h]
        exact ⟨rfl, rfl⟩
      rw [hparts.1, hparts.2, hfindings, htasks, apply_eq_ok hfirst]
      cases hkind : rule.trigger.kind? with
      | none => simp [reporting, deferring, hkind]
      | some kind => cases kind <;> simp [reporting, deferring, hkind]

/-- Without caps nothing is trimmed. -/
theorem trim_eq_self (hcaps : options.Uncapped) (fs : List Finding) : options.trim fs = fs := by
  have hkept : ∀ kept, options.trimAfter kept fs = fs := by
    induction fs with
    | nil => intro kept; rfl
    | cons f fs ih =>
        intro kept
        rw [ReviewOptions.trimAfter, ReviewOptions.reached_of_getD_eq_zero hcaps.2,
          ReviewOptions.reached_of_getD_eq_zero hcaps.1]
        simp [ih]
  exact hkept []

/-- **A rule of an unknown type does not disturb the others**, whether or not they come to a
result. -/
theorem applyAll_known [Host] (options : ReviewOptions) (entries : List PathLines)
    (rules : List RuleConstraint) :
    RuleConstraint.applyAll options entries (known rules)
      = RuleConstraint.applyAll options entries rules := by
  induction rules with
  | nil => rfl
  | cons rule rules ih =>
      rw [known] at ih ⊢
      rw [List.filter_cons]
      cases hkind : rule.trigger.kind? with
      | some kind =>
          simp only [Option.isSome_some, if_true]
          rw [RuleConstraint.applyAll, ih, RuleConstraint.applyAll]
      | none =>
          have hnothing : rule.apply options entries = .ok {} := by
            unfold RuleConstraint.apply
            rw [hkind]
            rfl
          simp only [Option.isSome_none, Bool.false_eq_true, if_false]
          rw [ih, RuleConstraint.applyAll, hnothing]
          cases hrest : RuleConstraint.applyAll options entries rules with
          | error e => rfl
          | ok review => rfl

/-- **The rule pass is its enumeration.**  A review by rules without caps has exactly the findings
and the tasks that are enumerated from the diff and the rules it has read, and it would have come to
the same without the rules of unknown types. -/
theorem byRules_eq_enumeration [Host] {diff : Text} {document : Json} {review : Review}
    (hcaps : options.Uncapped) (h : Review.byRules diff document options = .ok review) :
    ∃ files set, FileDiff.parse diff = .ok files ∧ RuleSet.ofJson document = .ok set ∧
      review.findings = findings options (RuleConstraint.ofRules set) files ∧
      review.tasks = tasks (RuleConstraint.ofRules set) files ∧
      RuleConstraint.applyAll options (entriesOf files) (known (RuleConstraint.ofRules set))
        = .ok review := by
  obtain ⟨files, set, hfiles, hset, h⟩ := Review.byRules_eq_ok.mp h
  rw [Review.ofRules, ← entriesOf_eq] at h
  obtain ⟨hfindings, htasks⟩ := applyAll_eq_ok h
  simp only [trim_eq_self hcaps] at hfindings
  refine ⟨files, set, hfiles, hset, hfindings, htasks, ?_⟩
  rw [applyAll_known, h]

/-- A diff of two added lines, one of which imports something. -/
def mixedDiff : Text := "+++ b/a.ts\n@@ -1 +1,2 @@\n+TODO x\n+import 'db'"

/-- A document with a rule of an unknown type, one that asks for a signal, and one for the other
reviewer. -/
def mixedRules : Json :=
  .object [("rules", .array
    [.object [("id", .string "a"), ("trigger", .object [("type", .string "magic")])],
      .object [("id", .string "b"),
        ("trigger", .object
          [("requireSignalMatch", .bool true), ("signals", Json.strings ["TODO"])])],
      .object [("id", .string "c"), ("trigger", .object [("type", .string "llm")])]])]

theorem byRules_eq_enumeration_mixed :
    ∃ review, ({} : ReviewOptions).Uncapped ∧ Review.byRules mixedDiff mixedRules {} = .ok review ∧
      review.findings.length = 1 ∧ review.tasks.length = 2 ∧
      ∃ files set, FileDiff.parse mixedDiff = .ok files ∧ RuleSet.ofJson mixedRules = .ok set ∧
        review.findings = findings {} (RuleConstraint.ofRules set) files ∧
        review.tasks = tasks (RuleConstraint.ofRules set) files ∧
        RuleConstraint.applyAll {} (entriesOf files) (known (RuleConstraint.ofRules set))
          = .ok review := by
  have hcaps : ({} : ReviewOptions).Uncapped := ⟨rfl, rfl⟩
  have hcount : ((Review.byRules mixedDiff mixedRules {}).toOption.map fun review =>
      (review.findings.length, review.tasks.length)) = some (1, 2) := by decide +kernel
  cases h : Review.byRules mixedDiff mixedRules {} with
  | error e => simp [h, Except.toOption] at hcount
  | ok review =>
      simp only [h, Except.toOption, Option.map_some, Option.some.injEq, Prod.mk.injEq] at hcount
      exact ⟨review, hcaps, rfl, hcount.1, hcount.2, byRules_eq_enumeration hcaps h⟩

end RulePass

end PatchReview
