/-
The gate lets pass what a review has found.

A review decides line by line, the gate looks at a finding, its rule and the lines of its
file.  What makes them agree is that the evidence quotes its line: behind the tag and the
message stands the beginning of the line, and the gate asks for no more than that.  The
exemptions and signals that the gate tests again are those that the review has tested on
the same lines, so they give the same answers, and none of them is refused.

Only a blank line is no evidence to the gate, so a finding on one may be dropped.
-/
import Mathlib.Data.List.Nodup
import PatchReview.Proofs.Review.Envelope
import PatchReview.Review.Gate

namespace PatchReview

/-! ### Looking up by a key -/

/-- The only item of its key is the one that is found. -/
theorem find?_of_nodup {α β : Type} [DecidableEq β] {key : α → β} {l : List α} {a : α}
    (h : (l.map key).Nodup) (ha : a ∈ l) : l.find? (fun b => key b = key a) = some a := by
  cases hfound : l.find? (fun b => key b = key a) with
  | none => exact absurd (List.find?_eq_none.mp hfound a ha) (by simp)
  | some b =>
      have hkey : key b = key a := by simpa using List.find?_some hfound
      rw [List.inj_on_of_nodup_map h (List.mem_of_find?_eq_some hfound) ha hkey]

theorem RuleConstraint.find?_of_nodup {rules : List RuleConstraint} {rule : RuleConstraint}
    (h : (rules.map RuleConstraint.id).Nodup) (hrule : rule ∈ rules) :
    RuleConstraint.find? rules rule.id = some rule := by
  have hreverse : (rules.reverse.map RuleConstraint.id).Nodup := by
    rw [List.map_reverse]
    exact List.nodup_reverse.mpr h
  rw [RuleConstraint.find?]
  simp only [beq_eq_decide]
  exact PatchReview.find?_of_nodup hreverse (List.mem_reverse.mpr hrule)

theorem PathLines.find?_addedByFile {files : List FileDiff} {entry : PathLines}
    (h : entry ∈ FileDiff.addedByFile files) :
    PathLines.find? entry.path (FileDiff.addedByFile files) = some entry := by
  have hpaths : ((FileDiff.addedByFile files).map PathLines.path).Nodup := by
    have hpath : PathLines.path ∘ FileDiff.entryOf files = id := rfl
    rw [FileDiff.addedByFile_eq, List.map_map, hpath, List.map_id]
    exact FileDiff.nodup_changedPaths files
  exact PatchReview.find?_of_nodup hpaths h

/-! ### What a finding of the rules comes from -/

namespace RulePass

variable [Host] {options : ReviewOptions} {rules : List RuleConstraint} {entries : List PathLines}
  {review : Review}

/-- A finding of the rules is on a line that its rule reports, in a file that it does not exempt. -/
theorem exists_emission (h : RuleConstraint.applyAll options entries rules = .ok review) :
    ∀ f ∈ review.findings, ∃ rule ∈ reporting rules, ∃ entry ∈ rule.scope entries,
      ∃ line ∈ entry.lines, exempted rule entry = false ∧ reports options rule line = true ∧
        f = findingOn rule entry.path line := by
  intro f hf
  rw [(applyAll_eq_ok h).1] at hf
  obtain ⟨rule, hrule, hf⟩ := List.mem_flatMap.mp hf
  obtain ⟨entry, hentry, hf⟩ := List.mem_flatMap.mp ((Review.trim_sublist _ _).subset hf)
  obtain ⟨line, hline, rfl⟩ := List.mem_map.mp hf
  obtain ⟨hentry, hscope⟩ := List.mem_filter.mp hentry
  obtain ⟨hline, hreports⟩ := List.mem_filter.mp hline
  rw [Bool.and_eq_true, Bool.not_eq_true'] at hscope
  exact ⟨rule, hrule, entry, List.mem_filter.mpr ⟨hentry, hscope.1⟩, line, hline, hscope.2,
    hreports, rfl⟩

/-- Rules that come to a result together do so one by one. -/
theorem apply_of_applyAll (h : RuleConstraint.applyAll options entries rules = .ok review) :
    ∀ rule ∈ rules, ∃ part, rule.apply options entries = .ok part := by
  induction rules generalizing review with
  | nil => simp
  | cons first rules ih =>
      obtain ⟨part, hpart, h⟩ := Outcome.bind_eq_ok.mp h
      obtain ⟨others, hothers, -⟩ := Outcome.bind_eq_ok.mp h
      intro rule hrule
      rcases List.mem_cons.mp hrule with rfl | hrule
      · exact ⟨part, hpart⟩
      · exact ih hothers rule hrule

/-- A rule that reports has looked at every file in its scope. -/
theorem findingsIn_of_applyAll (h : RuleConstraint.applyAll options entries rules = .ok review)
    {rule : RuleConstraint} (hrule : rule ∈ reporting rules) :
    ∀ entry ∈ rule.scope entries, ∃ fs, rule.findingsIn options entry = .ok fs := by
  obtain ⟨hrule, hreporting⟩ := List.mem_filter.mp hrule
  obtain ⟨part, hpart⟩ := apply_of_applyAll h rule hrule
  unfold RuleConstraint.apply at hpart
  cases hkind : rule.trigger.kind? with
  | none => simp [hkind] at hreporting
  | some kind =>
      rw [hkind] at hpart
      cases kind with
      | llm => simp [hkind] at hreporting
      | pattern | heuristic | hybrid =>
          obtain ⟨found, hfound, -⟩ := Outcome.bind_eq_ok.mp hpart
          exact Outcome.exists_ok_of_mapM hfound

/-- A rule that has looked at a file and not exempted it has tested all its exemptions there, and
all its signals if it asks for one. -/
theorem compile_of_findingsIn {rule : RuleConstraint} {entry : PathLines} {fs : List Finding}
    (h : rule.findingsIn options entry = .ok fs) (hexempted : exempted rule entry = false) :
    (∀ s ∈ rule.trigger.exempt, ∃ ready, Signal.compile s = .ok ready) ∧
      (asksSignal options rule = true →
        ∀ s ∈ rule.trigger.signals, ∃ ready, Signal.compile s = .ok ready) := by
  obtain ⟨exempt, hexempt, h⟩ := Outcome.bind_eq_ok.mp h
  rw [exempts_eq_ok hexempt, hexempted] at h
  obtain ⟨lines, hlines, -⟩ := Outcome.bind_eq_ok.mp h
  refine ⟨(Signal.anyMatches_eq_ok hexempt).1, fun hasks => ?_⟩
  rw [RuleConstraint.reported, if_pos (show rule.needsSignal options = true from hasks)] at hlines
  obtain ⟨found, hfound, -⟩ := Outcome.bind_eq_ok.mp hlines
  exact (Signal.anyMatches_eq_ok hfound).1

end RulePass

namespace Gate

/-! ### Evidence -/

/-- Behind the tag of a quotation stands its message. -/
theorem untagged_quotation (n : Nat) (text : Text) :
    untagged (Finding.quotation n text "Matched signal")
      = "Matched signal: \"" ++ Finding.clipped text ++ "\"" := by
  have hbracket : CodePoint.ofChar ']' ∉ Finding.placeOf n := by
    intro hmem
    rcases List.mem_append.mp hmem with hmem | hmem
    · exact absurd hmem (by decide)
    · exact absurd (Decimal.isDigit_of_mem_ofNat _ hmem) (by decide)
  have hquotation : Finding.quotation n text "Matched signal"
      = "[" ++ (Finding.placeOf n ++ CodePoint.ofChar ']'
          :: (" Matched signal: \"" ++ Finding.clipped text ++ "\"")) := by
    simp only [Finding.quotation, List.append_assoc]
    rfl
  have hplace : (Finding.placeOf n).isEmpty = false := rfl
  rw [hquotation, untagged, Text.dropStart?_append]
  simp only [Text.before_append hbracket, hplace, Bool.false_eq_true, if_false, List.drop_left]
  rfl

/-- A line is not clipped so short that less than the gate asks for would be left. -/
theorem take_prefix_clipped (text : Text) : text.take quotedLength <+: Finding.clipped text := by
  rw [Finding.clipped]
  split
  · exact List.take_prefix quotedLength text
  · have htake : (text.take (Finding.quoteLimit - 3)).take quotedLength
        = text.take quotedLength := by
      rw [List.take_take]
      rfl
    rw [← htake]
    exact (List.take_prefix _ _).trans (List.prefix_append _ _)

/-- **A quotation of a line that is not blank is evidence.** -/
theorem quotes_quotation {added : List Text} {text : Text} (n : Nat) (hmem : text ∈ added)
    (hblank : text.trim ≠ []) :
    quotes (Finding.quotation n text "Matched signal") added = true := by
  obtain ⟨rest, hrest⟩ := take_prefix_clipped text
  have hcontains :
      Text.contains (text.take quotedLength) (untagged (Finding.quotation n text "Matched signal"))
        = true := by
    rw [untagged_quotation, Text.contains_iff, ← hrest]
    exact ⟨"Matched signal: \"", rest ++ "\"", by simp only [List.append_assoc]⟩
  refine List.any_eq_true.mpr ⟨text, hmem, ?_⟩
  simp [hcontains, hblank]

/-! ### The policy -/

/-- Signals that the review has asked for are there when the gate asks for them. -/
theorem policyAdmits_of_emission [Host] {options : ReviewOptions} {rule : RuleConstraint}
    {entry : PathLines} {line : AddedLine} {fs : List Finding}
    (h : rule.findingsIn options entry = .ok fs) (hexempted : RulePass.exempted rule entry = false)
    (hline : line ∈ entry.lines) (hreports : RulePass.reports options rule line = true) :
    policyAdmits rule entry.texts = .ok true := by
  rw [policyAdmits]
  cases hrequire : rule.trigger.requireSignal with
  | false => rfl
  | true =>
      have hasks : RulePass.asksSignal options rule = true := by
        rw [RulePass.asksSignal, hrequire, Bool.true_or]
      obtain ⟨hexempt, hsignals⟩ := RulePass.compile_of_findingsIn h hexempted
      have hnone : entry.texts.any (Signal.someMatches rule.trigger.exempt) = false := by
        rw [PathLines.texts, List.any_map]
        exact hexempted
      have hsome : entry.texts.any (Signal.someMatches rule.trigger.signals) = true := by
        rw [RulePass.reports, hasks] at hreports
        exact List.any_eq_true.mpr ⟨line.text, List.mem_map.mpr ⟨line, hline, rfl⟩, hreports⟩
      rw [Signal.anyMatches_of_compile hexempt, hnone,
        Signal.anyMatches_of_compile (hsignals hasks), hsome]
      rfl

/-! ### A whole review -/

/-- Whether a finding quotes an added line of its file that is not blank. -/
def hasEvidence (files : List FileDiff) (f : Finding) : Bool :=
  evidenceAdmits f ((FileDiff.linesOf f.file files).map AddedLine.text)

/-- A finding on an added line that is not blank. -/
def OnVisibleLine (files : List FileDiff) (f : Finding) : Prop :=
  ∃ rule line, FileDiff.Adds files f.file line ∧ line.text.trim ≠ [] ∧
    f = RulePass.findingOn rule f.file line

variable {diff : Text} {document : Json} {options : ReviewOptions} {review : Review}
  {files : List FileDiff} {set : Option RuleSet}

/-- For a finding of the review only its evidence matters to the gate. -/
theorem admits_of_mem_findings [Host] (hdistinct : ((RuleSet.loaded set).map Rule.id).Nodup)
    (h : Review.ofRules options set files = .ok review) :
    ∀ f ∈ review.findings, admits (RuleConstraint.ofRules set) (FileDiff.addedByFile files) f
      = .ok (hasEvidence files f) := by
  intro f hf
  obtain ⟨rule, hrule, entry, hentry, line, hline, hexempted, hreports, rfl⟩ :=
    RulePass.exists_emission h f hf
  obtain ⟨fs, hfs⟩ := RulePass.findingsIn_of_applyAll h hrule entry hentry
  have hids : ((RuleConstraint.ofRules set).map RuleConstraint.id).Nodup := by
    rw [RuleConstraint.ofRules_eq, List.map_map]
    exact hdistinct
  have hmem := (List.mem_filter.mp hentry).1
  have hlines : entry.lines = FileDiff.linesOf entry.path files := by
    rw [FileDiff.addedByFile_eq] at hmem
    obtain ⟨path, -, rfl⟩ := List.mem_map.mp hmem
    rfl
  have hfind : RuleConstraint.find? (RuleConstraint.ofRules set)
      (RulePass.findingOn rule entry.path line).rule = some rule :=
    RuleConstraint.find?_of_nodup hids (List.mem_filter.mp hrule).1
  have hfile : PathLines.find? (RulePass.findingOn rule entry.path line).file
      (FileDiff.addedByFile files) = some entry := PathLines.find?_addedByFile hmem
  rw [admits, hfind, hfile]
  simp only [policyAdmits_of_emission hfs hexempted hline hreports, hasEvidence]
  rw [show (RulePass.findingOn rule entry.path line).file = entry.path from rfl, ← hlines]
  rfl

/-- A finding on a line that is not blank quotes it. -/
theorem OnVisibleLine.hasEvidence (hsound : ∀ file ∈ files, file.Sound) {f : Finding}
    (h : OnVisibleLine files f) : Gate.hasEvidence files f = true := by
  obtain ⟨rule, line, ⟨file, hfile, hpath, hline⟩, hvisible, hf⟩ := h
  obtain ⟨n, hn⟩ := Int.eq_ofNat_of_zero_le ((hsound file hfile).numbers line hline)
  have hmem : line.text ∈ (FileDiff.linesOf f.file files).map AddedLine.text :=
    List.mem_map.mpr ⟨line, List.mem_flatMap.mpr
      ⟨file, List.mem_filter.mpr ⟨hfile, by simpa using hpath⟩, hline⟩, rfl⟩
  have hevidence : f.evidence = [Finding.quotation n line.text "Matched signal"] := by
    rw [hf, ← hn]
    rfl
  rw [Gate.hasEvidence, evidenceAdmits, hevidence]
  exact quotes_quotation n hmem hvisible

/-- **The gate agrees with the review on the review's own findings.**  Where the rules of a document
have different ids, the gate brings back the findings of a review by these rules as they were and in
their order, and it leaves out none that is on a line with anything to see. -/
theorem kept_of_byRules [Host]
    (hdistinct : ∀ set, RuleSet.ofJson document = .ok set →
      ((RuleSet.loaded set).map Rule.id).Nodup)
    (h : Review.byRules diff document options = .ok review) :
    ∃ files keep, FileDiff.parse diff = .ok files ∧
      kept (Finding.listJson review.findings) files document
        = .ok (review.findings.filter keep) ∧
      ∀ f ∈ review.findings, OnVisibleLine files f → keep f = true := by
  obtain ⟨files, set, hfiles, hset, h⟩ := Review.byRules_eq_ok.mp h
  have hsound := FileDiff.sound_of_parse hfiles
  have hnormal : ∀ f ∈ review.findings, f.Normal := by
    intro f hf
    obtain ⟨line, hanchored, -⟩ := Review.anchored_of_mem_ruled hsound hset h f hf
    exact hanchored.normal hsound
  refine ⟨files, hasEvidence files, hfiles, ?_, fun f _ hf => hf.hasEvidence hsound⟩
  rw [kept, hset, Finding.normalize_listJson hnormal]
  exact Outcome.filterM_eq_ok (admits_of_mem_findings (hdistinct set hset) h)

/-- A diff that adds a blank line and one with something to see. -/
def blankDiff : Text := "+++ b/a.ts\n@@ -1 +1,2 @@\n+\t\n+TODO x"

/-- A document with a rule about every line and one that asks for a signal. -/
def blankRules : Json :=
  .object [("rules", .array
    [.object [("id", .string "all"), ("trigger", .object [("type", .string "pattern")])],
      .object [("id", .string "todo"),
        ("trigger", .object
          [("requireSignalMatch", .bool true), ("signals", Json.strings ["TODO"])])]])]

/-- Of three findings the gate leaves out the one on the blank line. -/
theorem kept_of_byRules_blankLine :
    ∃ review,
      (∀ set, RuleSet.ofJson blankRules = .ok set → ((RuleSet.loaded set).map Rule.id).Nodup) ∧
      Review.byRules blankDiff blankRules {} = .ok review ∧ review.findings.length = 3 ∧
      ∃ files keep, FileDiff.parse blankDiff = .ok files ∧
        kept (Finding.listJson review.findings) files blankRules
          = .ok (review.findings.filter keep) ∧
        (∀ f ∈ review.findings, OnVisibleLine files f → keep f = true) ∧
        (review.findings.filter keep).length = 2 := by
  have hids : ((RuleSet.ofJson blankRules).toOption.map fun set =>
      decide ((RuleSet.loaded set).map Rule.id).Nodup) = some true := by decide +kernel
  have hcount : ((Review.byRules blankDiff blankRules {}).toOption.map fun review =>
      review.findings.length) = some 3 := by decide +kernel
  have hpassed : ((FileDiff.parse blankDiff).toOption.bind fun files =>
      (Review.byRules blankDiff blankRules {}).toOption.bind fun review =>
        (kept (Finding.listJson review.findings) files blankRules).toOption.map List.length)
          = some 2 := by decide +kernel
  have hdistinct : ∀ set, RuleSet.ofJson blankRules = .ok set →
      ((RuleSet.loaded set).map Rule.id).Nodup :=
    fun set hset => of_decide_eq_true (Outcome.eq_of_toOption hids set hset)
  obtain ⟨review, h, hreview⟩ := Outcome.exists_ok_of_toOption hcount
  obtain ⟨files, keep, hfiles, hkept, hkeep⟩ := kept_of_byRules hdistinct h
  rw [hfiles, h] at hpassed
  refine ⟨review, hdistinct, h, hreview, files, keep, hfiles, hkept, hkeep, ?_⟩
  simpa [hkept, Except.toOption] using hpassed

end Gate

end PatchReview
