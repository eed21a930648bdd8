/-
A review from the command line.

The command reads its files and prints, in its envelope, what the review of their content
finds.  Between the bytes of a diff file and its review stands one step that a review
alone does not have: the line endings are unified.  Where every carriage return belongs
to a line ending, the lines stay the same and so does the review.  A carriage return that
stands alone is a part of its line for a review, but ends the line for the command, and
what follows is read as a line of its own.
-/
import PatchReview.Command.Run
import PatchReview.Proofs.File.Tree
import PatchReview.Proofs.Json.Printer
import PatchReview.Proofs.Text
import PatchReview.Proofs.Text.Utf8

namespace PatchReview

/-! ### Text without escapes -/

namespace Style

theorem stripWithin_of_visible (fuel : Nat) {t : Text} (h : t.Visible) :
    stripWithin fuel t = t := by
  induction fuel generalizing t with
  | zero => cases t <;> rfl
  | succ fuel ih =>
      cases t with
      | nil => rfl
      | cons c t =>
          have hne : CodePoint.ofChar '\x1b' ≠ c := by
            rintro rfl
            exact absurd (h _ (List.mem_cons_self)) (by decide)
          have hnone : afterEscape? (c :: t) = none := by
            have hdrop : Text.dropStart? escapeMark (c :: t) = none := if_neg hne
            rw [afterEscape?, hdrop]
          have hrest : Text.Visible t := h.subset (List.subset_cons_self c t)
          rw [stripWithin, hnone]
          simp only [ih hrest]

/-- Nothing is stripped from a text without control characters. -/
theorem strip_of_visible {t : Text} (h : t.Visible) : strip t = t := stripWithin_of_visible _ h

end Style

/-! ### The envelope as it is printed -/

namespace Json

theorem areWritable_map {α : Type} {f : α → Json} (h : ∀ a, (f a).isWritable = true)
    (l : List α) : areWritable (l.map f) = true := by
  induction l with
  | nil => rfl
  | cons a l ih => rw [List.map_cons, areWritable, h a, ih, Bool.and_self]

theorem isWritable_strings (texts : List Text) : (strings texts).isWritable = true :=
  areWritable_map (fun _ => rfl) texts

theorem isWritable_ofText? (t : Option Text) : (ofText? t).isWritable = true := by
  cases t <;> rfl

theorem Layout.visible_spaced : Layout.spaced.Visible := ⟨by decide, by decide⟩

end Json

namespace Review

variable {review : Review} {info : RunInfo}

theorem isWritable_envelope (review : Review) (info : RunInfo) :
    (review.envelope info).isWritable = true := by
  have hfindings : (Finding.listJson review.findings).isWritable = true := by
    refine Json.areWritable_map (fun f => ?_) review.findings
    simp [Finding.toJson, Json.isWritable, Json.haveWritable, Json.isWritable_strings]
  have htasks : (LlmTask.listJson review.tasks).isWritable = true :=
    Json.areWritable_map (fun _ => rfl) review.tasks
  have hinfo : info.toJson.isWritable = true := by
    simp [RunInfo.toJson, Json.isWritable, Json.haveWritable, Json.isWritable_ofText?]
  have hversion : Decimal.isWritable envelopeVersion.natAbs = true := by
    have hpow : ∀ k, k ≠ 0 → 1 < Nat.pow 10 k := fun k hk => Nat.one_lt_pow hk (by decide)
    rw [Decimal.isWritable, decide_eq_true_eq]
    exact hpow Decimal.digitLimit (by decide)
  simp [envelope, Json.isWritable, Json.haveWritable, hfindings, htasks, hinfo, hversion]

/-- **The envelope of a review is printed**, and nothing is stripped from it. -/
theorem exists_print_envelope (review : Review) (info : RunInfo) :
    ∃ t, (review.envelope info).print .spaced = .ok t ∧ Style.strip (t ++ "\n") = t ++ "\n" := by
  obtain ⟨t, ht, hvisible⟩ := Json.exists_printAt_eq_ok Json.Layout.visible_spaced
    (review.envelope info) (review.isWritable_envelope info) 0
  exact ⟨t, ht, Style.strip_of_visible (hvisible.append (by decide))⟩

/-- A review depends on the lines of its diff alone. -/
theorem ofDiff_congr [Host] {diff diff' : Text} (h : diff.lines = diff'.lines) :
    ofDiff diff = ofDiff diff' := by
  have hparse : FileDiff.parse diff = FileDiff.parse diff' := by
    rw [FileDiff.parse, FileDiff.parse, h]
  have hparsed : parsed diff = parsed diff' := by rw [parsed, parsed, hparse]
  funext rules boundaries options
  rw [ofDiff, ofDiff, hparsed]

end Review

/-! ### Documents -/

/-- A document is what the text of its file denotes. -/
theorem Json.load_of_read {files : FileTree} {workingFolder path : Path} {kind text : Text}
    {bytes : List UInt8} {v : Json} (hread : files.read workingFolder.parts path = .ok bytes)
    (hdecode : Utf8.decode bytes = .ok text)
    (hvalue : ofFileText path text.unifyEndings = .ok v) :
    load files workingFolder kind path = .ok v := by
  rw [load, if_pos (FileTree.contains_of_read hread)]
  refine Outcome.bind_eq_ok.mpr ⟨bytes, Outcome.mapError_eq_ok.mpr hread, ?_⟩
  exact Outcome.bind_eq_ok.mpr ⟨text, Outcome.mapError_eq_ok.mpr hdecode, hvalue⟩

/-! ### The command -/

/-- The command line that asks for a review in JSON of three files. -/
def reviewLine (diff rules boundaries : Text) : List Text :=
  ["review", "--diff-file", diff, "--rules", rules, "--boundaries", boundaries, "--format", "json"]

namespace Environment

/-- What a review of a diff file is printed with. -/
def runInfo (env : Environment) (diff : Path) : RunInfo :=
  { runId := env.runId, generatedAt := env.time, inputSource := (DiffSource.file diff).label }

end Environment

namespace ReviewArguments

/-- What such a command line gives to the command. -/
def ofFiles (diff rules boundaries : Path) : ReviewArguments :=
  { diffFile := some diff, rules := some rules, boundaries := some boundaries
    format := some "json" }

theorem ofArguments_reviewLine (diff rules boundaries : Text) :
    Invocation.ofArguments (reviewLine diff rules boundaries)
      = .ok (.run (.review
          (ofFiles (Path.ofText diff) (Path.ofText rules) (Path.ofText boundaries)))) :=
  rfl

variable {env : Environment} {diff rules boundaries : Path} {source : Option Path}

/-- With the default configuration everything is settled by the command line. -/
theorem job_ofFiles (h : env.configuration {} none = .ok { source }) :
    (ofFiles diff rules boundaries).job env
      = .ok { config := { source }, format := .json, failOn := none, source := .file diff } := by
  unfold job
  rw [show env.configuration (ofFiles diff rules boundaries).repository
    (ofFiles diff rules boundaries).config = .ok { source } from h]
  rfl

variable {text : Text} {rulesDocument boundariesDocument : Json} {review : Review}

theorem review_ofFiles [Host] (hdiff : env.diffText diff = .ok text)
    (hrules : env.document "Rules" rules = .ok rulesDocument)
    (hboundaries : env.document "Boundaries" boundaries = .ok boundariesDocument)
    (hreview : Review.ofDiff text rulesDocument boundariesDocument {} = .ok review) :
    (ofFiles diff rules boundaries).review
      { config := { source }, format := .json, failOn := none, source := .file diff } env
        = .ok review := by
  refine Outcome.bind_eq_ok.mpr ⟨text, hdiff, ?_⟩
  refine Outcome.bind_eq_ok.mpr ⟨rulesDocument, hrules, ?_⟩
  refine Outcome.bind_eq_ok.mpr ⟨boundariesDocument, hboundaries, ?_⟩
  exact Outcome.bind_eq_ok.mpr ⟨review, Outcome.mapError_eq_ok.mpr hreview, rfl⟩

/-- The command replies with the envelope of the review. -/
theorem reply_ofFiles [Host] (hconfig : env.configuration {} none = .ok { source })
    (hdiff : env.diffText diff = .ok text)
    (hrules : env.document "Rules" rules = .ok rulesDocument)
    (hboundaries : env.document "Boundaries" boundaries = .ok boundariesDocument)
    (hreview : Review.ofDiff text rulesDocument boundariesDocument {} = .ok review)
    {printed : Text} (hprinted : (review.envelope (env.runInfo diff)).print .spaced = .ok printed) :
    (ofFiles diff rules boundaries).reply env = .ok
      { text := printed
        exitCode := ExitCode.ofGravest ((Finding.gravest review.findings).map Severity.name) } := by
  refine Outcome.bind_eq_ok.mpr ⟨_, job_ofFiles hconfig, ?_⟩
  refine Outcome.bind_eq_ok.mpr ⟨review, review_ofFiles hdiff hrules hboundaries hreview, ?_⟩
  refine Outcome.bind_eq_ok.mpr ⟨none, rfl, ?_⟩
  exact Outcome.bind_eq_ok.mpr ⟨printed, Outcome.mapError_eq_ok.mpr hprinted, rfl⟩

end ReviewArguments

namespace Environment

/-- A command line prints the envelope of a review, on a line of its own. -/
def Prints [Host] (env : Environment) (arguments : List Text) (info : RunInfo)
    (review : Review) : Prop :=
  ∃ text completion, (review.envelope info).print .spaced = .ok text ∧
    (env.run arguments).outcome = .ok completion ∧ completion.output = text ++ "\n"

/-- A command line prints one text, so what it prints has one width. -/
theorem Prints.width_eq [Host] {env : Environment} {arguments : List Text} {info : RunInfo}
    {review review' : Review} (h : env.Prints arguments info review)
    (h' : env.Prints arguments info review') :
    (review.envelope info).width = (review'.envelope info).width := by
  obtain ⟨t, completion, ht, hrun, houtput⟩ := h
  obtain ⟨t', completion', ht', hrun', houtput'⟩ := h'
  obtain rfl : completion = completion' := Except.ok.inj (hrun.symm.trans hrun')
  have htext : t = t' := List.append_cancel_right (houtput.symm.trans houtput')
  rw [← Json.length_of_printAt _ 0 t ht, ← Json.length_of_printAt _ 0 t' ht', htext]

variable {env : Environment} {diff rules boundaries : Text} {source : Option Path} {text : Text}
  {rulesDocument boundariesDocument : Json} {review : Review}

/-- The command prints the review of the text that it reads from the diff file. -/
theorem prints_of_diffText [Host] (hconfig : env.configuration {} none = .ok { source })
    (hdiff : env.diffText (Path.ofText diff) = .ok text)
    (hrules : env.document "Rules" (Path.ofText rules) = .ok rulesDocument)
    (hboundaries : env.document "Boundaries" (Path.ofText boundaries) = .ok boundariesDocument)
    (hreview : Review.ofDiff text rulesDocument boundariesDocument {} = .ok review) :
    env.Prints (reviewLine diff rules boundaries) (env.runInfo (Path.ofText diff)) review := by
  obtain ⟨printed, hprinted, hstrip⟩ :=
    review.exists_print_envelope (env.runInfo (Path.ofText diff))
  have hreply := ReviewArguments.reply_ofFiles hconfig hdiff hrules hboundaries hreview hprinted
  have houtcome : (env.run (reviewLine diff rules boundaries)).outcome = .ok
      { output := Style.strip (printed ++ "\n")
        exitCode := ExitCode.ofGravest ((Finding.gravest review.findings).map Severity.name) } := by
    rw [run, ReviewArguments.ofArguments_reviewLine]
    simp only [runInvocation, Invocation.reply, Command.reply, hreply]
    rfl
  exact ⟨printed, _, hprinted, houtcome, hstrip⟩

theorem diffText_of_read {path : Path} {bytes : List UInt8}
    (hread : env.files.read env.workingFolder.parts path = .ok bytes)
    (hdecode : Utf8.decode bytes = .ok text) : env.diffText path = .ok text.unifyEndings := by
  rw [diffText, FileTree.readLossy, hread, ← Utf8.decodeLossy_of_decode hdecode]
  rfl

/-- **A review from the command line is the review of the text with unified line endings**, and of
the text itself as long as no carriage return stands alone in it. -/
theorem prints_review [Host] {bytes : List UInt8}
    (hconfig : Config.load env.files env.workingFolder {} none = .ok { source })
    (hread : env.files.read env.workingFolder.parts (Path.ofText diff) = .ok bytes)
    (hdecode : Utf8.decode bytes = .ok text)
    (hrules : Json.load env.files env.workingFolder "Rules" (Path.ofText rules)
      = .ok rulesDocument)
    (hboundaries : Json.load env.files env.workingFolder "Boundaries" (Path.ofText boundaries)
      = .ok boundariesDocument) :
    (∀ review, Review.ofDiff text.unifyEndings rulesDocument boundariesDocument {} = .ok review →
      env.Prints (reviewLine diff rules boundaries) (env.runInfo (Path.ofText diff)) review) ∧
    (text.NoLoneReturn → ∀ review,
      Review.ofDiff text rulesDocument boundariesDocument {} = .ok review →
      env.Prints (reviewLine diff rules boundaries) (env.runInfo (Path.ofText diff)) review) := by
  have hprints : ∀ review,
      Review.ofDiff text.unifyEndings rulesDocument boundariesDocument {} = .ok review →
      env.Prints (reviewLine diff rules boundaries) (env.runInfo (Path.ofText diff)) review :=
    fun review hreview => prints_of_diffText (Outcome.mapError_eq_ok.mpr hconfig)
      (diffText_of_read hread hdecode) (Outcome.mapError_eq_ok.mpr hrules)
      (Outcome.mapError_eq_ok.mpr hboundaries) hreview
  refine ⟨hprints, fun hreturn review hreview => hprints review ?_⟩
  rw [Review.ofDiff_congr (Text.lines_unifyEndings hreturn)]
  exact hreview

/-! ### A folder -/

/-- A rule that takes every added line. -/
def sampleRules : Json := .object [("rules", .array [.object [("id", .string "r")]])]

/-- The rule as it stands in its file. -/
def sampleRulesText : Text := "\x7b\"rules\": [\x7b\"id\": \"r\"\x7d]\x7d"

/-- A folder with a diff, a rule, and boundaries that forbid nothing. -/
def sample (diff : Text) : Environment where
  files :=
    { entries :=
        [(["home"], .folder), (["home", "d"], .file (Utf8.encode diff)),
          (["home", "r"], .file (Utf8.encode sampleRulesText)),
          (["home", "b"], .file (Utf8.encode "\x7b\x7d"))] }
  workingFolder := { start := .root, parts := ["home"] }
  runId := []
  time := []

theorem sample_config (diff : Text) :
    Config.load (sample diff).files (sample diff).workingFolder {} none
      = .ok { source := none } :=
  rfl

theorem sample_read (diff : Text) :
    (sample diff).files.read (sample diff).workingFolder.parts (Path.ofText "d")
      = .ok (Utf8.encode diff) :=
  rfl

theorem sample_rules (diff : Text) :
    Json.load (sample diff).files (sample diff).workingFolder "Rules" (Path.ofText "r")
      = .ok sampleRules := by
  have hread : (sample diff).files.read (sample diff).workingFolder.parts (Path.ofText "r")
      = .ok (Utf8.encode sampleRulesText) := rfl
  have hdecode : Utf8.decode (Utf8.encode sampleRulesText) = .ok sampleRulesText := by cbv
  have hvalue : Json.ofFileText (Path.ofText "r") sampleRulesText.unifyEndings
      = .ok sampleRules := by cbv
  exact Json.load_of_read hread hdecode hvalue

theorem sample_boundaries (diff : Text) :
    Json.load (sample diff).files (sample diff).workingFolder "Boundaries" (Path.ofText "b")
      = .ok (.object []) := by
  have hread : (sample diff).files.read (sample diff).workingFolder.parts (Path.ofText "b")
      = .ok (Utf8.encode "\x7b\x7d") := rfl
  have hdecode : Utf8.decode (Utf8.encode "\x7b\x7d") = .ok ("\x7b\x7d" : Text) := by cbv
  have hvalue : Json.ofFileText (Path.ofText "b") (Text.unifyEndings "\x7b\x7d")
      = .ok (.object []) := by cbv
  exact Json.load_of_read hread hdecode hvalue

/-- Two added lines, each of which ends with a carriage return and a line feed. -/
def pairedDiff : Text := "+++ b/a.ts\r\n@@ -1 +1,2 @@\r\n+x\r\n+y\r\n"

theorem prints_review_paired :
    ∃ review, Review.ofDiff pairedDiff sampleRules (.object []) {} = .ok review ∧
      review.findings.length = 2 ∧
      (sample pairedDiff).Prints (reviewLine "d" "r" "b")
        ((sample pairedDiff).runInfo (Path.ofText "d")) review := by
  have hdecode : Utf8.decode (Utf8.encode pairedDiff) = .ok pairedDiff := by cbv
  have hcount : (Review.ofDiff pairedDiff sampleRules (.object []) {}).toOption.map
      (fun review => review.findings.length) = some 2 := by decide +kernel
  obtain ⟨review, hreview, hcount⟩ := Outcome.exists_ok_of_toOption hcount
  obtain ⟨-, hprints⟩ := prints_review (sample_config pairedDiff) (sample_read pairedDiff)
    hdecode (sample_rules pairedDiff) (sample_boundaries pairedDiff)
  exact ⟨review, hreview, hcount, hprints (by decide +kernel) review hreview⟩

/-- A carriage return that stands alone in an added line, and another added line. -/
def loneDiff : Text := "+++ b/a.ts\n@@ -1 +1,2 @@\n+x\r y\n+z"

/-- **A carriage return that stands alone ends a line for the command only**, so that it prints
something else than the review of what the file says. -/
theorem not_prints_review_lone :
    Utf8.decode (Utf8.encode loneDiff) = .ok loneDiff ∧
      ∃ review, Review.ofDiff loneDiff sampleRules (.object []) {} = .ok review ∧
        ¬(sample loneDiff).Prints (reviewLine "d" "r" "b")
          ((sample loneDiff).runInfo (Path.ofText "d")) review := by
  have hdecode : Utf8.decode (Utf8.encode loneDiff) = .ok loneDiff := by cbv
  -- Both reviews in one computation: that of the text, and that of the text as it is read.
  have hwidths : ((Review.ofDiff loneDiff sampleRules (.object []) {}).toOption.bind fun review =>
      (Review.ofDiff loneDiff.unifyEndings sampleRules (.object []) {}).toOption.map fun read =>
        decide ((review.envelope ((sample loneDiff).runInfo (Path.ofText "d"))).width
          = (read.envelope ((sample loneDiff).runInfo (Path.ofText "d"))).width))
      = some false := by decide +kernel
  obtain ⟨review, hreview, hwidths⟩ := Option.bind_eq_some_iff.mp hwidths
  obtain ⟨read, hread, hwidths⟩ := Outcome.exists_ok_of_toOption hwidths
  have hprints : (sample loneDiff).Prints (reviewLine "d" "r" "b")
      ((sample loneDiff).runInfo (Path.ofText "d")) read :=
    prints_of_diffText (Outcome.mapError_eq_ok.mpr (sample_config loneDiff))
      (diffText_of_read (sample_read loneDiff) hdecode)
      (Outcome.mapError_eq_ok.mpr (sample_rules loneDiff))
      (Outcome.mapError_eq_ok.mpr (sample_boundaries loneDiff)) hread
  refine ⟨hdecode, review, Outcome.eq_ok_of_toOption hreview, fun h => ?_⟩
  exact of_decide_eq_false hwidths (h.width_eq hprints)

end Environment

end PatchReview
