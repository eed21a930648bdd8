/-
Broken patterns are inert.

A signal whose pattern does not compile matches no line.  A review asks its signals only
whether some of them match, so a broken one may be left out wherever that is all it is
asked: from the exemptions at any time, even if none remains, and from the signals as long
as their mere presence does not count, which it does under strict signals alone.  Leaving
patterns out can make no step fail that did not fail before, because what remains was made
ready before too.  So the review by the shorter lists comes to a result if the other one
does, and to the same one.
-/
import PatchReview.Proofs.Review.StrictSignals
import PatchReview.Proofs.Rule.Prune

namespace PatchReview

/-! ### Signals -/

namespace Signal

variable [Host] {line : Text} {lines signals signals' : List Text}

theorem matchesLine_of_broken {signal : Text} (h : Broken signal) :
    matchesLine signal line = false := by
  obtain ⟨pattern, e, hpattern, hcompile⟩ := h
  rw [matchesLine, compile, hpattern]
  cases e <;> simp [hcompile, holds]

theorem someMatches_of_leavesOut (h : LeavesOut Broken signals signals') :
    someMatches signals' = someMatches signals := by
  funext line
  exact h.any_eq fun _ => matchesLine_of_broken

theorem anyMatches_of_leavesOut {b : Bool} (h : LeavesOut Broken signals signals')
    (hany : anyMatches lines signals = .ok b) : anyMatches lines signals' = .ok b := by
  obtain ⟨hready, rfl⟩ := anyMatches_eq_ok hany
  rw [anyMatches_of_compile fun s hs => hready s (h.sublist.subset hs), someMatches_of_leavesOut h]

theorem lineMatches_of_leavesOut (h : LeavesOut Broken signals signals')
    (hready : ∀ s ∈ signals, ∃ ready, compile s = .ok ready) (line : Text) :
    lineMatches line signals' = lineMatches line signals := by
  rw [lineMatches_eq hready, lineMatches_eq fun s hs => hready s (h.sublist.subset hs),
    someMatches_of_leavesOut h]

end Signal

/-! ### A rule -/

/-- A list in which broken patterns are inert. -/
def TriggerList.Inert (list : TriggerList) (options : ReviewOptions) : Prop :=
  list = .exempt ∨ list = .signals ∧ options.strictSignals = false

namespace RuleConstraint

/-- A rule with other texts in a list. -/
def withList (rule : RuleConstraint) (list : TriggerList) (texts : List Text) : RuleConstraint :=
  { rule with trigger := list.set texts rule.trigger }

variable {rule : RuleConstraint} {list : TriggerList} {texts : List Text} {options : ReviewOptions}
  {entry : PathLines}

theorem exempts_withList [Host] {b : Bool}
    (hout : LeavesOut Signal.Broken (list.get rule.trigger) texts)
    (h : rule.exempts entry = .ok b) : (rule.withList list texts).exempts entry = .ok b := by
  cases list with
  | exempt => exact Signal.anyMatches_of_leavesOut hout h
  | signals | fileGlobs => exact h

/-- Without strict signals it does not matter how many signals there are. -/
theorem needsSignal_withList (rule : RuleConstraint) (texts : List Text)
    (hinert : list.Inert options) :
    (rule.withList list texts).needsSignal options = rule.needsSignal options := by
  rcases hinert with rfl | ⟨rfl, hstrict⟩
  · rfl
  · simp only [needsSignal, hstrict, Bool.false_and]
    rfl

theorem reported_withList [Host] {reported : List AddedLine} (hinert : list.Inert options)
    (hout : LeavesOut Signal.Broken (list.get rule.trigger) texts)
    (h : rule.reported options entry = .ok reported) :
    (rule.withList list texts).reported options entry = .ok reported := by
  rw [RuleConstraint.reported, needsSignal_withList rule texts hinert]
  rw [RuleConstraint.reported] at h
  by_cases hasks : rule.needsSignal options = true
  · rw [if_pos hasks] at h ⊢
    rcases hinert with rfl | ⟨rfl, -⟩
    · exact h
    · obtain ⟨found, hfound, h⟩ := Outcome.bind_eq_ok.mp h
      have hready := (Signal.anyMatches_eq_ok hfound).1
      refine Outcome.bind_eq_ok.mpr ⟨found, Signal.anyMatches_of_leavesOut hout hfound, ?_⟩
      show (if found = true then entry.lines.filterM fun line => Signal.lineMatches line.text texts
        else return []) = .ok reported
      simp only [Signal.lineMatches_of_leavesOut hout hready]
      exact h
  · rw [if_neg hasks] at h ⊢
    exact h

theorem findingsIn_withList [Host] {fs : List Finding} (hinert : list.Inert options)
    (hout : LeavesOut Signal.Broken (list.get rule.trigger) texts)
    (h : rule.findingsIn options entry = .ok fs) :
    (rule.withList list texts).findingsIn options entry = .ok fs := by
  obtain ⟨exempt, hexempt, h⟩ := Outcome.bind_eq_ok.mp h
  refine Outcome.bind_eq_ok.mpr ⟨exempt, exempts_withList hout hexempt, ?_⟩
  cases exempt with
  | true => exact h
  | false =>
      obtain ⟨reported, hreported, h⟩ := Outcome.bind_eq_ok.mp h
      exact Outcome.bind_eq_ok.mpr ⟨reported, reported_withList hinert hout hreported, h⟩

/-- **A rule comes to the same with broken patterns left out.** -/
theorem apply_withList [Host] {entries : List PathLines} {review : Review}
    (hinert : list.Inert options) (hout : LeavesOut Signal.Broken (list.get rule.trigger) texts)
    (h : rule.apply options entries = .ok review) :
    (rule.withList list texts).apply options entries = .ok review := by
  have hkind : (rule.withList list texts).trigger.kind? = rule.trigger.kind? :=
    list.kind?_set texts rule.trigger
  have hscope : (rule.withList list texts).scope entries = rule.scope entries := by
    rcases hinert with rfl | ⟨rfl, -⟩ <;> rfl
  unfold apply at h ⊢
  rw [hkind, hscope]
  cases hkinds : rule.trigger.kind? with
  | none => rw [hkinds] at h; exact h
  | some kind =>
      rw [hkinds] at h
      cases kind with
      | llm => exact h
      | pattern | heuristic | hybrid =>
          obtain ⟨found, hfound, h⟩ := Outcome.bind_eq_ok.mp h
          refine Outcome.bind_eq_ok.mpr ⟨found, ?_, h⟩
          exact Outcome.mapM_eq_ok.mpr ((Outcome.mapM_eq_ok.mp hfound).imp
            fun _ _ => findingsIn_withList hinert hout)

end RuleConstraint

/-! ### All rules -/

/-- The constraint of a pruned rule has a shorter list, and nothing else is different. -/
theorem Rule.PrunedTo.constraint [Host] {rule rule' : Rule} {list : TriggerList}
    (h : rule.PrunedTo list rule') :
    ∃ texts, LeavesOut Signal.Broken (list.get (RuleConstraint.ofRule rule).trigger) texts ∧
      RuleConstraint.ofRule rule' = (RuleConstraint.ofRule rule).withList list texts := by
  obtain ⟨texts, hout, htrigger⟩ := h.trigger
  refine ⟨texts, hout, ?_⟩
  calc RuleConstraint.ofRule rule'
      = { RuleConstraint.ofRule rule'.untriggered with trigger := rule'.effectiveTrigger } := rfl
    _ = { RuleConstraint.ofRule rule.untriggered with
          trigger := list.set texts rule.effectiveTrigger } := by rw [← h.untriggered, htrigger]
    _ = (RuleConstraint.ofRule rule).withList list texts := rfl

/-- Rules come to the same together with broken patterns left out of any of them. -/
theorem RuleConstraint.applyAll_of_pruned [Host] {list : TriggerList} {options : ReviewOptions}
    {entries : List PathLines} {rules rules' : List Rule} {review : Review}
    (hinert : list.Inert options) (hpruned : List.Forall₂ (Rule.PrunedTo list) rules rules')
    (h : applyAll options entries (rules.map ofRule) = .ok review) :
    applyAll options entries (rules'.map ofRule) = .ok review := by
  induction hpruned generalizing review with
  | nil => exact h
  | cons hrule _ ih =>
      obtain ⟨first, hfirst, h⟩ := Outcome.bind_eq_ok.mp h
      obtain ⟨others, hothers, h⟩ := Outcome.bind_eq_ok.mp h
      obtain ⟨texts, hout, hconstraint⟩ := hrule.constraint
      rw [List.map_cons, hconstraint]
      exact Outcome.bind_eq_ok.mpr ⟨first, apply_withList hinert hout hfirst,
        Outcome.bind_eq_ok.mpr ⟨others, ih hothers, h⟩⟩

/-! ### A whole review -/

namespace Review

variable {diff : Text} {document document' boundaries : Json} {options : ReviewOptions}
  {review : Review} {list : TriggerList}

/-- Leaving broken patterns out of a list in which they are inert leaves a review as it is. -/
theorem ofDiff_of_prunesRules [Host] (hinert : list.Inert options)
    (hprunes : list.PrunesRules document document')
    (h : ofDiff diff document boundaries options = .ok review) :
    ofDiff diff document' boundaries options = .ok review := by
  obtain ⟨files, set, policy, ruled, bounded, hfiles, hset, hpolicy, hruled, hbounded, hfindings⟩ :=
    ofDiff_eq_ok h
  obtain ⟨set', hset', hpruned⟩ := RuleSet.ofJson_of_prunesRules hprunes hset
  have hruled' : ofRules options set' files = .ok { findings := ruled, tasks := review.tasks } := by
    rw [ofRules, RuleConstraint.ofRules_eq] at hruled ⊢
    exact RuleConstraint.applyAll_of_pruned hinert hpruned hruled
  have hbounded' : boundaryFindings policy set' files = .ok bounded := by
    have hgrading := BoundaryPass.grading_congr (Rule.map_untriggered_of_pruned hpruned)
    rw [← BoundaryPass.boundaryFindings_congr hgrading, hbounded]
  have hreview := ofDiff_of_parts hfiles hset' hpolicy hruled' hbounded'
  rw [← hfindings] at hreview
  exact hreview

/-- **Broken patterns are inert.**  A review that comes to a result comes to the same result when
patterns that do not compile are left out of the exemptions of any rules, and unless signals are
strict also when they are left out of the signals of any rules, be it all that a rule has. -/
theorem ofDiff_broken_inert [Host] (h : ofDiff diff document boundaries options = .ok review) :
    (∀ document', TriggerList.exempt.PrunesRules document document' →
      ofDiff diff document' boundaries options = .ok review) ∧
    (options.strictSignals = false →
      ∀ document', TriggerList.signals.PrunesRules document document' →
        ofDiff diff document' boundaries options = .ok review) :=
  ⟨fun _ hprunes => ofDiff_of_prunesRules (.inl rfl) hprunes h,
    fun hstrict _ hprunes => ofDiff_of_prunesRules (.inr ⟨rfl, hstrict⟩) hprunes h⟩

/-- A rule with a broken exemption, and a broken signal beside one that is not. -/
def partlyBroken : Json :=
  .object [("id", .string "todo"), ("trigger", .object
    [("requireSignalMatch", .bool true), ("signals", Json.strings ["regex:(", "TODO"]),
      ("exempt", Json.strings ["regex:*"])])]

/-- A rule that asks for a signal and has none that is not broken. -/
def whollyBroken : Json :=
  .object [("id", .string "never"), ("trigger", .object
    [("requireSignalMatch", .bool true), ("signals", Json.strings ["regex:("])])]

theorem brokenItem_paren : Signal.BrokenItem (.string "regex:(") :=
  ⟨"regex:(", rfl, "(", .malformed, rfl, by decide +kernel⟩

theorem brokenItem_star : Signal.BrokenItem (.string "regex:*") :=
  ⟨"regex:*", rfl, "*", .malformed, rfl, by decide +kernel⟩

/-- Both documents without broken patterns are reviewed by as the one with them: an import is found
in each case and a to-do. -/
theorem ofDiff_broken_inert_mixed :
    ∃ review, ofDiff RulePass.mixedDiff (RuleSet.listing [partlyBroken, whollyBroken])
        mixedBoundaries {} = .ok review ∧ review.findings.length = 2 ∧
      ofDiff RulePass.mixedDiff ((RuleSet.listing [partlyBroken, whollyBroken]).withField "rules"
        (.array [TriggerList.exempt.edit [] partlyBroken, whollyBroken])) mixedBoundaries {}
          = .ok review ∧
      ofDiff RulePass.mixedDiff ((RuleSet.listing [partlyBroken, whollyBroken]).withField "rules"
        (.array [TriggerList.signals.edit [.string "TODO"] partlyBroken,
          TriggerList.signals.edit [] whollyBroken])) mixedBoundaries {} = .ok review := by
  obtain ⟨review, h, htwo⟩ : ∃ review, ofDiff RulePass.mixedDiff
      (RuleSet.listing [partlyBroken, whollyBroken]) mixedBoundaries {} = .ok review ∧
      review.findings.length = 2 := Outcome.exists_ok_of_toOption (by decide +kernel)
  have hexempt : TriggerList.exempt.Prunes partlyBroken (TriggerList.exempt.edit [] partlyBroken) :=
    .pruned rfl (.drop brokenItem_star .nil)
  have hsignals : TriggerList.signals.Prunes partlyBroken
      (TriggerList.signals.edit [.string "TODO"] partlyBroken) :=
    .pruned rfl (.drop brokenItem_paren (.keep _ .nil))
  have hall : TriggerList.signals.Prunes whollyBroken (TriggerList.signals.edit [] whollyBroken) :=
    .pruned rfl (.drop brokenItem_paren .nil)
  obtain ⟨hexempted, hsignalled⟩ := ofDiff_broken_inert h
  exact ⟨review, h, htwo, hexempted _ (.rules rfl (.cons hexempt (.cons (.same _) .nil))),
    hsignalled rfl _ (.rules rfl (.cons hsignals (.cons hall .nil)))⟩

end Review

end PatchReview
