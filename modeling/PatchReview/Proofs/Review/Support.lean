/-
What the gate lets pass.

A finding from elsewhere passes the gate if the diff and the policy support it: the policy
declares its rule, the diff has its file, the policy of the rule admits the lines that are
added there, and what the finding shows first quotes one of them.  Whether a finding
passes depends on nothing else, and those that pass are as normalizing made them.

The policy of a rule is asked for only where the rule requires a signal.  A rule that
requires none has its exemptions overlooked: the gate lets its findings pass on a file
where a review by the same rule reports nothing.
-/
import PatchReview.Proofs.Review.BoundaryPart
import PatchReview.Proofs.Review.Gate

namespace PatchReview

/-! ### The entry of a path -/

theorem PathLines.find?_addedByFile_eq_some {files : List FileDiff} {path : Text}
    {entry : PathLines} :
    PathLines.find? path (FileDiff.addedByFile files) = some entry ↔
      (∃ file ∈ files, file.path = path) ∧ entry = FileDiff.entryOf files path := by
  constructor
  · intro h
    have hmem := List.mem_of_find?_eq_some h
    have hpath : entry.path = path := by simpa using List.find?_some h
    rw [FileDiff.addedByFile_eq] at hmem
    obtain ⟨q, hq, rfl⟩ := List.mem_map.mp hmem
    have hqpath : q = path := hpath
    subst hqpath
    exact ⟨FileDiff.mem_changedPaths.mp hq, rfl⟩
  · rintro ⟨hfile, rfl⟩
    have hmem : FileDiff.entryOf files path ∈ FileDiff.addedByFile files := by
      rw [FileDiff.addedByFile_eq]
      exact List.mem_map_of_mem (FileDiff.mem_changedPaths.mpr hfile)
    exact PathLines.find?_addedByFile hmem

/-- A test holds of the text of some line of the entry of a path if it does so of an added line. -/
theorem FileDiff.any_texts_entryOf {files : List FileDiff} {path : Text} {p : Text → Bool} :
    (FileDiff.entryOf files path).texts.any p = true ↔
      ∃ line, FileDiff.Adds files path line ∧ p line.text = true := by
  rw [PathLines.texts, List.any_map, List.any_eq_true]
  constructor
  · rintro ⟨line, hline, hp⟩
    exact ⟨line, FileDiff.mem_linesOf.mp hline, hp⟩
  · rintro ⟨line, hline, hp⟩
    exact ⟨line, FileDiff.mem_linesOf.mpr hline, hp⟩

/-- The declaration of a rule is found under its id. -/
theorem RuleConstraint.find?_ofRules (set : Option RuleSet) (id : Text) :
    RuleConstraint.find? (RuleConstraint.ofRules set) id
      = (BoundaryPass.declared (RuleSet.loaded set) id).map RuleConstraint.ofRule := by
  have hid : ((fun rule : RuleConstraint => rule.id == id) ∘ RuleConstraint.ofRule)
      = fun rule : Rule => decide (rule.id = id) := by
    funext rule
    exact beq_eq_decide _ _
  rw [RuleConstraint.find?, RuleConstraint.ofRules_eq, ← List.map_reverse, List.find?_map, hid,
    ← List.head?_filter, List.filter_reverse, List.head?_reverse, BoundaryPass.declared]

namespace Gate

/-! ### What a line of evidence says -/

/-- A line of evidence begins with a tag: something in square brackets. -/
def BeginsTagged (evidence tag behind : Text) : Prop :=
  tag ≠ [] ∧ CodePoint.ofChar ']' ∉ tag ∧ evidence = "[" ++ tag ++ "]" ++ behind

/-- What a line of evidence says: what stands behind its tag and the white space there, or all of it
if it has no tag. -/
def Says (evidence said : Text) : Prop :=
  (∃ tag blanks, BeginsTagged evidence tag (blanks ++ said) ∧ (∀ c ∈ blanks, c.isBlank = true) ∧
      said.head?.any CodePoint.isBlank = false) ∨
    (¬∃ tag behind, BeginsTagged evidence tag behind) ∧ said = evidence

theorem untagged_of_beginsTagged {evidence tag behind : Text}
    (h : BeginsTagged evidence tag behind) : untagged evidence = behind.trimStart := by
  obtain ⟨htag, hbracket, rfl⟩ := h
  have htext : ("[" : Text) ++ tag ++ "]" ++ behind
      = "[" ++ (tag ++ CodePoint.ofChar ']' :: behind) := by
    simp only [List.append_assoc]
    rfl
  have hempty : tag.isEmpty = false := List.isEmpty_eq_false_iff.mpr htag
  rw [htext, untagged, Text.dropStart?_append]
  simp only [Text.before_append hbracket, hempty, Bool.false_eq_true, if_false, List.drop_left]

/-- A line of evidence without a tag loses nothing. -/
theorem untagged_eq_self {evidence : Text} (h : ¬∃ tag behind, BeginsTagged evidence tag behind) :
    untagged evidence = evidence := by
  unfold untagged
  cases hrest : Text.dropStart? "[" evidence with
  | none => rfl
  | some rest =>
      simp only
      split
      · rfl
      · rename_i htag
        rcases Text.before_eq_self_or ']' rest with hall | ⟨behind, hbehind⟩
        · rw [hall, List.drop_length]
        · exfalso
          refine h ⟨Text.before ']' rest, behind, by simpa using htag,
            Text.not_mem_before _ rest, ?_⟩
          rw [Text.eq_append_of_dropStart? hrest]
          conv_lhs => rw [hbehind]
          simp only [List.append_assoc]
          rfl

/-- **What a line of evidence says is what the gate looks at.** -/
theorem says_iff {evidence said : Text} : Says evidence said ↔ said = untagged evidence := by
  constructor
  · rintro (⟨tag, blanks, htagged, hblanks, hhead⟩ | ⟨hnone, rfl⟩)
    · have htrim : Text.trimStart said = said := by
        cases said with
        | nil => rfl
        | cons c said =>
            have hc : c.isBlank = false := by simpa using hhead
            rw [Text.trimStart, List.dropWhile_cons_of_neg (by simp [hc])]
      rw [untagged_of_beginsTagged htagged, Text.trimStart,
        List.dropWhile_append_of_pos hblanks]
      exact htrim.symm
    · exact (untagged_eq_self hnone).symm
  · rintro rfl
    by_cases htagged : ∃ tag behind, BeginsTagged evidence tag behind
    · obtain ⟨tag, behind, htagged⟩ := htagged
      rw [untagged_of_beginsTagged htagged]
      refine Or.inl ⟨tag, behind.takeWhile CodePoint.isBlank, ?_, ?_, ?_⟩
      · rw [Text.trimStart, List.takeWhile_append_dropWhile]
        exact htagged
      · intro c hc
        exact List.mem_takeWhile_imp hc
      · rw [Text.trimStart]
        cases hrest : behind.dropWhile CodePoint.isBlank with
        | nil => rfl
        | cons c rest =>
            have hc := List.head?_dropWhile_not CodePoint.isBlank behind
            rw [hrest] at hc
            simpa using hc
    · exact Or.inr ⟨htagged, untagged_eq_self htagged⟩

/-! ### Support -/

/-- An exemption of a rule matches a line that is added to a file. -/
def Exempted [Host] (files : List FileDiff) (path : Text) (rule : Rule) : Prop :=
  ∃ line, FileDiff.Adds files path line ∧
    Signal.someMatches rule.effectiveTrigger.exempt line.text = true

instance [Host] (files : List FileDiff) (path : Text) (rule : Rule) :
    Decidable (Exempted files path rule) := decidable_of_iff _ FileDiff.any_texts_entryOf

/-- A signal of a rule matches a line that is added to a file. -/
def Signalled [Host] (files : List FileDiff) (path : Text) (rule : Rule) : Prop :=
  ∃ line, FileDiff.Adds files path line ∧
    Signal.someMatches rule.effectiveTrigger.signals line.text = true

/-- What a line of evidence says quotes the beginning of a line that is added to a file and is not
blank. -/
def QuotesAdded (files : List FileDiff) (path evidence : Text) : Prop :=
  ∃ said line, Says evidence said ∧ FileDiff.Adds files path line ∧ line.text.trim ≠ [] ∧
    line.text.take 20 <:+: said

/-- The diff and the policy support a finding, which is one of a declared rule. -/
structure Supported [Host] (rules : List Rule) (files : List FileDiff) (f : Finding) (rule : Rule) :
    Prop where
  /-- The last rule of an id is its declaration. -/
  declared : BoundaryPass.declared rules f.rule = some rule
  changed : ∃ file ∈ files, file.path = f.file
  unexempted : rule.effectiveTrigger.requireSignal = true → ¬Exempted files f.file rule
  signalled : rule.effectiveTrigger.requireSignal = true → Signalled files f.file rule
  /-- A finding may have no evidence at all. -/
  evidence : ∀ first, f.evidence.head? = some first → QuotesAdded files f.file first

variable {files : List FileDiff} {set : Option RuleSet} {f : Finding}

/-- The policy of a rule is asked for where the rule requires a signal. -/
theorem policyAdmits_eq_ok [Host] {constraint : RuleConstraint} {added : List Text} {b : Bool}
    (h : policyAdmits constraint added = .ok b) :
    b = true ↔ (constraint.trigger.requireSignal = true →
      added.any (Signal.someMatches constraint.trigger.exempt) = false ∧
        added.any (Signal.someMatches constraint.trigger.signals) = true) := by
  unfold policyAdmits at h
  by_cases hrequire : constraint.trigger.requireSignal = true
  · rw [if_pos hrequire] at h
    obtain ⟨exempt, hexempt, h⟩ := Outcome.bind_eq_ok.mp h
    have hany := (Signal.anyMatches_eq_ok hexempt).2
    rw [← hany]
    cases exempt with
    | true =>
        have hb : false = b := Outcome.pure_eq_ok.mp h
        simp [← hb, hrequire]
    | false =>
        rw [if_neg (by simp)] at h
        rw [← (Signal.anyMatches_eq_ok h).2]
        simp [hrequire]
  · rw [if_neg hrequire] at h
    have hb : true = b := Outcome.pure_eq_ok.mp h
    simp [← hb, hrequire]

theorem quotes_iff {path evidence : Text} :
    quotes evidence (FileDiff.entryOf files path).texts = true ↔
      QuotesAdded files path evidence := by
  rw [quotes, FileDiff.any_texts_entryOf]
  constructor
  · rintro ⟨line, hline, hquotes⟩
    rw [Bool.and_eq_true, Bool.not_eq_true', List.isEmpty_eq_false_iff, Text.contains_iff] at hquotes
    exact ⟨untagged evidence, line, says_iff.mpr rfl, hline, hquotes.1, hquotes.2⟩
  · rintro ⟨said, line, hsaid, hline, hvisible, hquotes⟩
    rw [says_iff.mp hsaid] at hquotes
    refine ⟨line, hline, ?_⟩
    rw [Bool.and_eq_true, Bool.not_eq_true', List.isEmpty_eq_false_iff, Text.contains_iff]
    exact ⟨hvisible, hquotes⟩

theorem evidenceAdmits_iff :
    evidenceAdmits f (FileDiff.entryOf files f.file).texts = true ↔
      ∀ first, f.evidence.head? = some first → QuotesAdded files f.file first := by
  unfold evidenceAdmits
  cases f.evidence with
  | nil => simp
  | cons first rest =>
      simp only [List.head?_cons, Option.some.injEq, forall_eq']
      exact quotes_iff

/-- **A finding passes exactly if the diff and the policy support it.** -/
theorem admits_eq_ok [Host] {b : Bool}
    (h : admits (RuleConstraint.ofRules set) (FileDiff.addedByFile files) f = .ok b) :
    b = true ↔ ∃ rule, Supported (RuleSet.loaded set) files f rule := by
  unfold admits at h
  rw [RuleConstraint.find?_ofRules] at h
  cases hrule : BoundaryPass.declared (RuleSet.loaded set) f.rule with
  | none =>
      rw [hrule] at h
      have hb : false = b := Except.ok.inj h
      rw [← hb]
      refine iff_of_false (by simp) ?_
      rintro ⟨rule, hsupported⟩
      rw [hsupported.declared] at hrule
      exact absurd hrule (by simp)
  | some rule =>
      rw [hrule] at h
      cases hentry : PathLines.find? f.file (FileDiff.addedByFile files) with
      | none =>
          rw [hentry] at h
          have hb : false = b := Except.ok.inj h
          rw [← hb]
          refine iff_of_false (by simp) ?_
          rintro ⟨rule', hsupported⟩
          have hfound := PathLines.find?_addedByFile_eq_some.mpr ⟨hsupported.changed, rfl⟩
          rw [hentry] at hfound
          exact absurd hfound (by simp)
      | some entry =>
          obtain ⟨hchanged, rfl⟩ := PathLines.find?_addedByFile_eq_some.mp hentry
          rw [hentry] at h
          obtain ⟨admitted, hadmitted, h⟩ := Outcome.bind_eq_ok.mp h
          have hb := Outcome.pure_eq_ok.mp h
          have hpolicy := policyAdmits_eq_ok hadmitted
          rw [← Bool.not_eq_true, FileDiff.any_texts_entryOf, FileDiff.any_texts_entryOf] at hpolicy
          rw [← hb, Bool.and_eq_true, hpolicy, evidenceAdmits_iff]
          constructor
          · rintro ⟨hadmits, hevidence⟩
            exact ⟨rule, hrule, hchanged, fun hrequire => (hadmits hrequire).1,
              fun hrequire => (hadmits hrequire).2, hevidence⟩
          · rintro ⟨rule', hsupported⟩
            have hsame : rule = rule' :=
              Option.some.inj (hrule.symm.trans hsupported.declared)
            subst hsame
            exact ⟨fun hrequire => ⟨hsupported.unexempted hrequire, hsupported.signalled hrequire⟩,
              hsupported.evidence⟩

/-! ### All findings -/

/-- A rule that exempts no added line of a file does not have it exempted in a review. -/
theorem exempted_eq_false [Host] {path : Text} {rule : Rule} (h : ¬Exempted files path rule) :
    ∀ entry ∈ FileDiff.addedByFile files, entry.path = path →
      RulePass.exempted (RuleConstraint.ofRule rule) entry = false := by
  intro entry hentry hpath
  rw [← Bool.not_eq_true]
  intro hexempted
  obtain ⟨line, hline, hmatch⟩ := List.any_eq_true.mp hexempted
  exact h ⟨line, hpath ▸ FileDiff.adds_of_mem_addedByFile hentry hline, hmatch⟩

/-- **What the gate lets pass.**  Of the findings in a value, as normalizing makes them, it keeps
those that the diff and the policy support, unchanged and in their order.  If the rule of a finding
that is kept requires a signal, a review by this rule has not exempted the file. -/
theorem kept_iff_supported [Host] {raw document : Json} {passed : List Finding}
    (h : kept raw files document = .ok passed) :
    ∃ set findings keep, RuleSet.ofJson document = .ok set ∧
      Finding.normalize raw = .ok findings ∧ passed = findings.filter keep ∧
      (∀ f ∈ findings, keep f = true ↔ ∃ rule, Supported (RuleSet.loaded set) files f rule) ∧
      ∀ f ∈ passed, ∀ rule, BoundaryPass.declared (RuleSet.loaded set) f.rule = some rule →
        rule.effectiveTrigger.requireSignal = true →
        ∀ entry ∈ FileDiff.addedByFile files, entry.path = f.file →
          RulePass.exempted (RuleConstraint.ofRule rule) entry = false := by
  obtain ⟨set, hset, h⟩ := Outcome.bind_eq_ok.mp h
  obtain ⟨findings, hfindings, h⟩ := Outcome.bind_eq_ok.mp h
  obtain ⟨keep, hpassed, hkeep⟩ := Outcome.filterM_eq_filter h
  refine ⟨set, findings, keep, Outcome.mapError_eq_ok.mp hset, Outcome.mapError_eq_ok.mp hfindings,
    hpassed, fun f hf => admits_eq_ok (hkeep f hf), ?_⟩
  intro f hf rule hrule hrequire
  rw [hpassed, List.mem_filter] at hf
  obtain ⟨rule', hsupported⟩ := (admits_eq_ok (hkeep f hf.1)).mp hf.2
  have hsame : rule' = rule := Option.some.inj (hsupported.declared.symm.trans hrule)
  exact exempted_eq_false (hsame ▸ hsupported.unexempted (hsame ▸ hrequire))

/-- A diff that adds a line with a tracked note. -/
def trackedDiff : Text := "+++ b/a.ts\n@@ -1 +1 @@\n+TODO(#1) tracked"

/-- Two rules that exempt tracked notes; only the first one requires a signal. -/
def trackedRules : Json :=
  .object [("rules", .array
    [.object [("id", .string "strict"),
        ("trigger", .object
          [("requireSignalMatch", .bool true), ("signals", Json.strings ["TODO"]),
            ("exempt", Json.strings ["TODO(#"])])],
      .object [("id", .string "loose"),
        ("trigger", .object [("exempt", Json.strings ["TODO(#"])])]])]

/-- A finding of each of the two rules. -/
def trackedFindings : Json :=
  .array
    [.object [("rule", .string "strict"), ("file", .string "a.ts"),
        ("finding", Json.strings ["[L1] TODO(#1) tracked"])],
      .object [("rule", .string "loose"), ("file", .string "a.ts"),
        ("finding", Json.strings ["[L1] TODO(#1) tracked"])]]

/-- Of the two findings the gate keeps the one whose rule requires no signal. -/
theorem kept_iff_supported_tracked :
    ∃ files passed, FileDiff.parse trackedDiff = .ok files ∧
      kept trackedFindings files trackedRules = .ok passed ∧ passed.length = 1 ∧
      ∃ set findings keep, RuleSet.ofJson trackedRules = .ok set ∧
        Finding.normalize trackedFindings = .ok findings ∧ passed = findings.filter keep ∧
        ∀ f ∈ findings, keep f = true ↔ ∃ rule, Supported (RuleSet.loaded set) files f rule := by
  have hcount : ((FileDiff.parse trackedDiff).toOption.bind fun files =>
      (kept trackedFindings files trackedRules).toOption.map List.length) = some 1 := by
    decide +kernel
  obtain ⟨files, hfiles, hcount⟩ := Option.bind_eq_some_iff.mp hcount
  obtain ⟨passed, h, hlength⟩ := Outcome.exists_ok_of_toOption hcount
  obtain ⟨set, findings, keep, hset, hfindings, hpassed, hkeep, -⟩ := kept_iff_supported h
  exact ⟨files, passed, Outcome.eq_ok_of_toOption hfiles, h, hlength, set, findings, keep, hset,
    hfindings, hpassed, hkeep⟩

/-- **An exemption of a rule that requires no signal is overlooked**: a finding is kept on a file
that its rule exempts. -/
theorem kept_of_exempted :
    ∃ files passed set, FileDiff.parse trackedDiff = .ok files ∧
      kept trackedFindings files trackedRules = .ok passed ∧
      RuleSet.ofJson trackedRules = .ok set ∧
      ∃ f ∈ passed, ∃ rule, BoundaryPass.declared (RuleSet.loaded set) f.rule = some rule ∧
        Exempted files f.file rule := by
  -- The whole run as one computation, from which each of its parts is read off.
  have hrun : ((FileDiff.parse trackedDiff).toOption.bind fun files =>
      (kept trackedFindings files trackedRules).toOption.bind fun passed =>
        (RuleSet.ofJson trackedRules).toOption.map fun set =>
          passed.any fun f => (BoundaryPass.declared (RuleSet.loaded set) f.rule).toList.any
            fun rule => decide (Exempted files f.file rule)) = some true := by decide +kernel
  obtain ⟨files, hfiles, hrun⟩ := Option.bind_eq_some_iff.mp hrun
  obtain ⟨passed, hpassed, hrun⟩ := Option.bind_eq_some_iff.mp hrun
  obtain ⟨set, hset, hrun⟩ := Outcome.exists_ok_of_toOption hrun
  obtain ⟨f, hf, hdeclared⟩ := List.any_eq_true.mp hrun
  obtain ⟨rule, hrule, hexempted⟩ := List.any_eq_true.mp hdeclared
  exact ⟨files, passed, set, Outcome.eq_ok_of_toOption hfiles, Outcome.eq_ok_of_toOption hpassed,
    hset, f, hf, rule, Option.mem_toList.mp hrule, of_decide_eq_true hexempted⟩

end Gate

end PatchReview
