/-
More patterns change a review in one direction.

A pattern more among the exemptions of a rule can only take paths out, a signal more can
only let lines in where signals are asked for, and a glob more can only let paths in where
globs restrict a rule at all.  Both tests of a rule are about one path or one line, so what
is let in or taken out never disturbs the order of the rest: the smaller review is the
larger one with findings left out.  And since every rule is applied for itself, what the
other rules come to stays as it is, in front of the changed rule and behind it.
-/
import Mathlib.Data.List.Flatten
import PatchReview.Proofs.Review.Parts
import PatchReview.Proofs.Rule.Edit

namespace PatchReview

/-! ### One rule against another -/

namespace RulePass

variable {options options' : ReviewOptions} {rule rule' : RuleConstraint}

/-- A rule that lets in every path and every line that another one lets in has its findings, if it
reports in the same way. -/
theorem findingsOf_sublist [Host] (entries : List PathLines)
    (hfinding : findingOn rule = findingOn rule')
    (hpaths : ∀ entry, inScope rule entry = true → exempted rule entry = false →
      inScope rule' entry = true ∧ exempted rule' entry = false)
    (hlines : ∀ line, reports options rule line = true → reports options' rule' line = true) :
    (findingsOf options entries rule).Sublist (findingsOf options' entries rule') := by
  have hentries : ∀ entry, (inScope rule entry && !exempted rule entry) = true →
      (inScope rule' entry && !exempted rule' entry) = true := by
    intro entry h
    simp only [Bool.and_eq_true, Bool.not_eq_true'] at h ⊢
    exact hpaths entry h.1 h.2
  rw [findingsOf, findingsOf, hfinding]
  refine ((List.monotone_filter_right entries hentries).flatMap _).trans ?_
  exact List.Sublist.flatMap_right _ fun entry _ =>
    (List.monotone_filter_right entry.lines hlines).map _

/-- The same of the tasks. -/
theorem tasksOf_sublist (entries : List PathLines) (htask : taskOn rule = taskOn rule')
    (hpaths : ∀ entry, inScope rule entry = true → inScope rule' entry = true) :
    (tasksOf entries rule).Sublist (tasksOf entries rule') := by
  rw [tasksOf, tasksOf, htask]
  exact (List.monotone_filter_right entries hpaths).flatMap _

/-- Two rules that are picked alike compare as what they come to. -/
theorem flatMap_filter_singleton {α : Type} {R : List α → List α → Prop} (hnil : R [] [])
    {pick : RuleConstraint → Bool} (hpick : pick rule = pick rule')
    {f f' : RuleConstraint → List α} (h : R (f rule) (f' rule')) :
    R (([rule].filter pick).flatMap f) (([rule'].filter pick).flatMap f') := by
  rw [List.filter_singleton, List.filter_singleton, hpick]
  cases pick rule' with
  | true => simpa using h
  | false => exact hnil

/-- Rules of the same type report as their findings compare. -/
theorem reporting_sublist {f f' : RuleConstraint → List Finding}
    (hkind : rule.trigger.kind? = rule'.trigger.kind?) (h : (f rule).Sublist (f' rule')) :
    ((reporting [rule]).flatMap f).Sublist ((reporting [rule']).flatMap f') :=
  flatMap_filter_singleton (R := List.Sublist) .slnil (by rw [hkind]) h

/-- The same of what they hand on. -/
theorem deferring_sublist {f f' : RuleConstraint → List LlmTask}
    (hkind : rule.trigger.kind? = rule'.trigger.kind?) (h : (f rule).Sublist (f' rule')) :
    ((deferring [rule]).flatMap f).Sublist ((deferring [rule']).flatMap f') :=
  flatMap_filter_singleton (R := List.Sublist) .slnil (by rw [hkind]) h

theorem deferring_congr {f f' : RuleConstraint → List LlmTask}
    (hkind : rule.trigger.kind? = rule'.trigger.kind?) (h : f rule = f' rule') :
    (deferring [rule]).flatMap f = (deferring [rule']).flatMap f' :=
  flatMap_filter_singleton (R := Eq) rfl (by rw [hkind]) h

end RulePass

/-! ### A rule with a longer list -/

namespace RuleConstraint

/-- A rule with more texts at the end of a list. -/
def append (rule : RuleConstraint) (list : TriggerList) (more : List Text) : RuleConstraint :=
  { rule with trigger := list.set (list.get rule.trigger ++ more) rule.trigger }

end RuleConstraint

namespace RulePass

variable {options : ReviewOptions} {entries : List PathLines} {rule : RuleConstraint}

/-- An exemption more exempts no fewer paths. -/
theorem exempted_of_append [Host] {more : List Text} {entry : PathLines}
    (h : exempted (rule.append .exempt more) entry = false) : exempted rule entry = false := by
  rw [exempted, List.any_eq_false] at h ⊢
  intro line hline hexempt
  refine h line hline ?_
  have hmore : Signal.someMatches (rule.trigger.exempt ++ more) line.text = true := by
    rw [Signal.someMatches, List.any_append, Bool.or_eq_true]
    exact Or.inl hexempt
  exact hmore

theorem findingsOf_append_exempt [Host] (rule : RuleConstraint) (more : List Text) :
    (findingsOf options entries (rule.append .exempt more)).Sublist
      (findingsOf options entries rule) :=
  findingsOf_sublist entries rfl (fun _ hscope h => ⟨hscope, exempted_of_append h⟩) fun _ h => h

/-- A signal more reports no fewer lines, if the rule asks for signals already. -/
theorem reports_append_signals [Host] (hasks : asksSignal options rule = true) (more : List Text)
    {line : AddedLine} (h : reports options rule line = true) :
    reports options (rule.append .signals more) line = true := by
  rw [reports, hasks, Bool.not_true, Bool.false_or] at h
  have hmore : Signal.someMatches (rule.trigger.signals ++ more) line.text = true := by
    rw [Signal.someMatches, List.any_append, Bool.or_eq_true]
    exact Or.inl h
  exact Bool.or_eq_true_iff.mpr (Or.inr hmore)

theorem findingsOf_append_signals [Host] (hasks : asksSignal options rule = true)
    (more : List Text) :
    (findingsOf options entries rule).Sublist
      (findingsOf options entries (rule.append .signals more)) :=
  findingsOf_sublist entries rfl (fun _ hscope h => ⟨hscope, h⟩)
    fun _ h => reports_append_signals hasks more h

/-- A glob more lets no fewer paths in, if there are globs already. -/
theorem inScope_append_fileGlobs (hglobs : rule.trigger.fileGlobs ≠ []) (more : List Text)
    {entry : PathLines} (h : inScope rule entry = true) :
    inScope (rule.append .fileGlobs more) entry = true := by
  rw [inScope, List.isEmpty_eq_false_iff.mpr hglobs, Bool.false_or, Bool.and_eq_true] at h
  have hmore : ((rule.trigger.fileGlobs ++ more).any fun glob => Glob.isMatch glob entry.path)
      = true := by
    rw [List.any_append, Bool.or_eq_true]
    exact Or.inl h.2
  exact Bool.and_eq_true_iff.mpr ⟨h.1, Bool.or_eq_true_iff.mpr (Or.inr hmore)⟩

theorem findingsOf_append_fileGlobs [Host] (hglobs : rule.trigger.fileGlobs ≠ [])
    (more : List Text) :
    (findingsOf options entries rule).Sublist
      (findingsOf options entries (rule.append .fileGlobs more)) :=
  findingsOf_sublist entries rfl
    (fun _ hscope h => ⟨inScope_append_fileGlobs hglobs more hscope, h⟩) fun _ h => h

theorem tasksOf_append_fileGlobs (hglobs : rule.trigger.fileGlobs ≠ []) (more : List Text) :
    (tasksOf entries rule).Sublist (tasksOf entries (rule.append .fileGlobs more)) :=
  tasksOf_sublist entries rfl fun _ hscope => inScope_append_fileGlobs hglobs more hscope

end RulePass

/-! ### A whole review -/

namespace Review

variable {diff : Text} {document item : Json} {options : ReviewOptions} {rule : Rule}
  {list : TriggerList} {more : List Json}

/-- Two reviews by rules that differ in one entry: what the entries in front of it and behind it
come to is the same in both. -/
def DifferIn [Host] (diff : Text) (options : ReviewOptions) (before : List Json) (item item' : Json)
    (behind : List Json) (old new own own' : Review) : Prop :=
  ∃ front back, byRules diff (RuleSet.listing before) options = .ok front ∧
    byRules diff (RuleSet.listing [item]) options = .ok own ∧
    byRules diff (RuleSet.listing [item']) options = .ok own' ∧
    byRules diff (RuleSet.listing behind) options = .ok back ∧
    old = front ++ own ++ back ∧ new = front ++ own' ++ back

/-- What one entry comes to without caps. -/
theorem byRules_entry [Host] {own : Review} (hcaps : options.Uncapped)
    (hrule : Rule.ofJson item = .ok (some rule))
    (h : byRules diff (RuleSet.listing [item]) options = .ok own) :
    ∃ files, FileDiff.parse diff = .ok files ∧
      own.findings = (RulePass.reporting [RuleConstraint.ofRule rule]).flatMap
        (RulePass.findingsOf options (FileDiff.addedByFile files)) ∧
      own.tasks = (RulePass.deferring [RuleConstraint.ofRule rule]).flatMap
        (RulePass.tasksOf (FileDiff.addedByFile files)) := by
  obtain ⟨files, rules, hfiles, hrules, h⟩ := byRules_listing_eq_ok_iff.mp h
  obtain ⟨found, hfound, hrules⟩ := Outcome.bind_eq_ok.mp hrules
  obtain rfl : some rule = found := Except.ok.inj (hrule.symm.trans hfound)
  obtain rfl : [rule] = rules := Except.ok.inj hrules
  obtain ⟨hfindings, htasks⟩ := RulePass.applyAll_eq_ok h
  simp only [RulePass.trim_eq_self hcaps] at hfindings
  exact ⟨files, hfiles, hfindings, htasks⟩

theorem append_assoc (a b c : Review) : a ++ b ++ c = a ++ (b ++ c) := by
  simp only [append_def, List.append_assoc]

/-- A review by a list of rules, cut in front of an entry and behind it. -/
theorem byRules_listing_split [Host] {before behind : List Json} {review : Review}
    (h : byRules diff (RuleSet.listing (before ++ item :: behind)) options = .ok review) :
    ∃ front own back, byRules diff (RuleSet.listing before) options = .ok front ∧
      byRules diff (RuleSet.listing [item]) options = .ok own ∧
      byRules diff (RuleSet.listing behind) options = .ok back ∧ review = front ++ own ++ back := by
  obtain ⟨front, others, hfront, hothers, rfl⟩ := byRules_listing_append.mp h
  rw [← List.singleton_append] at hothers
  obtain ⟨own, back, hown, hback, rfl⟩ := byRules_listing_append.mp hothers
  exact ⟨front, own, back, hfront, hown, hback, (append_assoc _ _ _).symm⟩

/-- **Reviews by rules that differ in one entry differ in what that entry comes to.** -/
theorem exists_differIn [Host] {before behind : List Json} {item' : Json} {old new : Review}
    (hitems : (document.field "rules").items = before ++ item :: behind)
    (h : byRules diff document options = .ok old)
    (h' : byRules diff (document.withField "rules" (.array (before ++ item' :: behind))) options
      = .ok new) :
    ∃ own own', DifferIn diff options before item item' behind old new own own' := by
  have hold := byRules_listing h
  have hnew := byRules_listing h'
  rw [hitems] at hold
  rw [Json.field_withField_self] at hnew
  obtain ⟨front, own, back, hfront, hown, hback, rfl⟩ := byRules_listing_split hold
  obtain ⟨front', own', back', hfront', hown', hback', rfl⟩ := byRules_listing_split hnew
  obtain rfl := Except.ok.inj (hfront.symm.trans hfront')
  obtain rfl := Except.ok.inj (hback.symm.trans hback')
  exact ⟨own, own', front, back, hfront, hown, hown', hback, rfl, rfl⟩

end Review

/-- How a review compares with the one by longer lists: more exemptions can only take findings out,
more signals can only bring findings in if the rule asks for signals, and more globs can only bring
findings and tasks in if the rule has globs. -/
def TriggerList.Moves (list : TriggerList) (options : ReviewOptions) (rule : Rule)
    (old new : Review) : Prop :=
  match list with
  | .exempt => new.findings.Sublist old.findings ∧ new.tasks = old.tasks
  | .signals =>
      RulePass.asksSignal options (RuleConstraint.ofRule rule) = true →
        old.findings.Sublist new.findings ∧ new.tasks = old.tasks
  | .fileGlobs =>
      rule.effectiveTrigger.fileGlobs ≠ [] →
        old.findings.Sublist new.findings ∧ old.tasks.Sublist new.tasks

namespace Review

variable {diff : Text} {document item : Json} {options : ReviewOptions} {rule : Rule}
  {list : TriggerList} {more : List Json}

/-- What stands around one entry moves nothing. -/
theorem moves_append {own own' : Review} (h : list.Moves options rule own own')
    (front back : Review) :
    list.Moves options rule (front ++ own ++ back) (front ++ own' ++ back) := by
  have hsublist : ∀ {α : Type} {a b : List α} (front back : List α), a.Sublist b →
      (front ++ a ++ back).Sublist (front ++ b ++ back) :=
    fun front back h => (h.append_left front).append_right back
  unfold TriggerList.Moves at h ⊢
  simp only [findings_append, tasks_append]
  cases list with
  | exempt => exact ⟨hsublist _ _ h.1, by rw [h.2]⟩
  | signals => exact fun hasks => ⟨hsublist _ _ (h hasks).1, by rw [(h hasks).2]⟩
  | fileGlobs => exact fun hglobs => ⟨hsublist _ _ (h hglobs).1, hsublist _ _ (h hglobs).2⟩

/-- Longer lists of one entry move what the entry comes to. -/
theorem moves_entry [Host] {own own' : Review} (hcaps : options.Uncapped)
    (hrule : Rule.ofJson item = .ok (some rule))
    (h : byRules diff (RuleSet.listing [item]) options = .ok own)
    (h' : byRules diff (RuleSet.listing [list.append more item]) options = .ok own') :
    list.Moves options rule own own' := by
  obtain ⟨_, _, -, hrules, -⟩ := byRules_listing_eq_ok_iff.mp h'
  obtain ⟨found, hfound, -⟩ := Outcome.bind_eq_ok.mp hrules
  obtain ⟨texts, trigger, -, rfl, rfl⟩ := Rule.ofJson_append hrule hfound
  obtain ⟨files, hfiles, hfindings, htasks⟩ := byRules_entry hcaps hrule h
  obtain ⟨files', hfiles', hfindings', htasks'⟩ := byRules_entry hcaps hfound h'
  obtain rfl := Except.ok.inj (hfiles.symm.trans hfiles')
  -- The loaded rule has the longer list, and is applied in the same way.
  have hlonger : RuleConstraint.ofRule { rule with trigger := some (list.set
      (list.get rule.effectiveTrigger ++ texts) rule.effectiveTrigger) }
        = (RuleConstraint.ofRule rule).append list texts := rfl
  have hkind : ((RuleConstraint.ofRule rule).append list texts).trigger.kind?
      = (RuleConstraint.ofRule rule).trigger.kind? := TriggerList.kind?_set list _ _
  rw [hlonger] at hfindings' htasks'
  unfold TriggerList.Moves
  cases list with
  | exempt =>
      rw [hfindings, hfindings', htasks, htasks']
      exact ⟨RulePass.reporting_sublist hkind (RulePass.findingsOf_append_exempt _ texts),
        RulePass.deferring_congr hkind rfl⟩
  | signals =>
      intro hasks
      rw [hfindings, hfindings', htasks, htasks']
      exact ⟨RulePass.reporting_sublist hkind.symm (RulePass.findingsOf_append_signals hasks texts),
        RulePass.deferring_congr hkind rfl⟩
  | fileGlobs =>
      intro hglobs
      rw [hfindings, hfindings', htasks, htasks']
      exact ⟨RulePass.reporting_sublist hkind.symm
          (RulePass.findingsOf_append_fileGlobs hglobs texts),
        RulePass.deferring_sublist hkind.symm (RulePass.tasksOf_append_fileGlobs hglobs texts)⟩

/-- **More patterns move a review in one direction**, and of the entries only the one that has them:
what the others come to stays. -/
theorem byRules_monotone [Host] {before behind : List Json} {old new : Review}
    (hcaps : options.Uncapped) (hitems : (document.field "rules").items = before ++ item :: behind)
    (hrule : Rule.ofJson item = .ok (some rule))
    (h : byRules diff document options = .ok old)
    (h' : byRules diff (document.withField "rules"
      (.array (before ++ list.append more item :: behind))) options = .ok new) :
    ∃ own own', DifferIn diff options before item (list.append more item) behind old new own own' ∧
      list.Moves options rule own own' ∧ list.Moves options rule old new := by
  obtain ⟨own, own', hdiffer⟩ := exists_differIn hitems h h'
  obtain ⟨front, back, -, hown, hown', -, hold, hnew⟩ := id hdiffer
  have hmoves := moves_entry hcaps hrule hown hown'
  exact ⟨own, own', hdiffer, hmoves, hold ▸ hnew ▸ moves_append hmoves front back⟩

/-- A to-do and a to-fix in one file, and a to-do in another. -/
def gatedDiff : Text :=
  "+++ b/a/x\n@@ -1 +1,2 @@\n+TODO p\n+FIXME q\n+++ b/b/y\n@@ -1 +1 @@\n+TODO r"

/-- A rule that looks for to-dos in one directory. -/
def gatedEntry : Json :=
  .object [("id", .string "todo"), ("trigger", .object
    [("requireSignalMatch", .bool true), ("signals", Json.strings ["TODO"]),
      ("file_glob", Json.strings ["a/**"])])]

/-- A rule that hands every added line on. -/
def askEntry : Json :=
  .object [("id", .string "ask"), ("trigger", .object [("type", .string "llm")])]

/-- The rule that hands on, and behind it the one for to-dos with a text more in a list. -/
def gatedRules (list : TriggerList) (pattern : Text) : Json :=
  (RuleSet.listing [askEntry, gatedEntry]).withField "rules"
    (.array ([askEntry] ++ list.append [.string pattern] gatedEntry :: []))

theorem byRules_monotone_gated :
    ∃ old exempting signalling reaching,
      byRules gatedDiff (RuleSet.listing [askEntry, gatedEntry]) {} = .ok old ∧
      byRules gatedDiff (gatedRules .exempt "FIXME") {} = .ok exempting ∧
      byRules gatedDiff (gatedRules .signals "FIXME") {} = .ok signalling ∧
      byRules gatedDiff (gatedRules .fileGlobs "b/**") {} = .ok reaching ∧
      [old, exempting, signalling, reaching].map (fun review => review.findings.length)
        = [1, 0, 2, 2] ∧
      (exempting.findings.Sublist old.findings ∧ exempting.tasks = old.tasks) ∧
      (old.findings.Sublist signalling.findings ∧ signalling.tasks = old.tasks) ∧
      old.findings.Sublist reaching.findings ∧ old.tasks.Sublist reaching.tasks := by
  obtain ⟨found, hrule, hfound⟩ : ∃ found, Rule.ofJson gatedEntry = .ok found ∧
      (found.map fun rule => (RulePass.asksSignal {} (RuleConstraint.ofRule rule),
        rule.effectiveTrigger.fileGlobs.isEmpty)) = some (true, false) :=
    Outcome.exists_ok_of_toOption (by decide +kernel)
  obtain ⟨rule, rfl, hloaded⟩ := Option.map_eq_some_iff.mp hfound
  obtain ⟨hasks, hglobs⟩ := Prod.ext_iff.mp hloaded
  obtain ⟨old, hold, hcount⟩ : ∃ review,
      byRules gatedDiff (RuleSet.listing [askEntry, gatedEntry]) {} = .ok review ∧
      review.findings.length = 1 := Outcome.exists_ok_of_toOption (by decide +kernel)
  obtain ⟨exempting, hexempting, hnone⟩ : ∃ review,
      byRules gatedDiff (gatedRules .exempt "FIXME") {} = .ok review ∧
      review.findings.length = 0 := Outcome.exists_ok_of_toOption (by decide +kernel)
  obtain ⟨signalling, hsignalling, htwo⟩ : ∃ review,
      byRules gatedDiff (gatedRules .signals "FIXME") {} = .ok review ∧
      review.findings.length = 2 := Outcome.exists_ok_of_toOption (by decide +kernel)
  obtain ⟨reaching, hreaching, hboth⟩ : ∃ review,
      byRules gatedDiff (gatedRules .fileGlobs "b/**") {} = .ok review ∧
      review.findings.length = 2 := Outcome.exists_ok_of_toOption (by decide +kernel)
  obtain ⟨_, _, -, -, hexempt⟩ := byRules_monotone ⟨rfl, rfl⟩ rfl hrule hold hexempting
  obtain ⟨_, _, -, -, hsignals⟩ := byRules_monotone ⟨rfl, rfl⟩ rfl hrule hold hsignalling
  obtain ⟨_, _, -, -, hreach⟩ := byRules_monotone ⟨rfl, rfl⟩ rfl hrule hold hreaching
  exact ⟨old, exempting, signalling, reaching, hold, hexempting, hsignalling, hreaching,
    by simp only [List.map, hcount, hnone, htwo, hboth], hexempt, hsignals hasks,
    hreach (List.isEmpty_eq_false_iff.mp hglobs)⟩

end Review

end PatchReview
