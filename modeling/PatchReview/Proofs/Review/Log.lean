/-
What a review warns of.

A review warns of one thing only, a rule that it skips because its type is unknown.
Everything else that it says is there for debugging.
-/
import PatchReview.Proofs.Review.Run
import PatchReview.Review.Log

namespace PatchReview

namespace ReviewLog

/-- A log without a warning. -/
def Quiet (log : ReviewLog) : Prop := ∀ entry ∈ log.entries, entry.level = .debug

theorem quiet_empty : ({} : ReviewLog).Quiet := by simp [Quiet]

theorem quiet_broken (patterns : List Text) : ({ broken := patterns } : ReviewLog).Quiet := by
  simp [Quiet]

theorem quiet_debug (message : Text) : (debug message).Quiet := by
  simp [Quiet, debug]

theorem Quiet.append {a b : ReviewLog} (ha : a.Quiet) (hb : b.Quiet) : (a ++ b).Quiet := by
  intro entry hentry
  rcases List.mem_append.mp hentry with hentry | hentry
  · exact ha entry hentry
  · exact hb entry hentry

theorem quiet_concat {logs : List ReviewLog} (h : ∀ log ∈ logs, log.Quiet) :
    (concat logs).Quiet := by
  induction logs with
  | nil => exact quiet_empty
  | cons log logs ih =>
      exact (h log (by simp)).append (ih fun other hother => h other (by simp [hother]))

end ReviewLog

namespace RuleConstraint

variable [Host] {rule : RuleConstraint} {options : ReviewOptions} {log : ReviewLog}

theorem fileLog_quiet {entry : PathLines} (h : rule.fileLog options entry = .ok log) :
    log.Quiet := by
  have hexemptions := ReviewLog.quiet_broken (Signal.brokenPatterns rule.trigger.exempt)
  have hsignals := ReviewLog.quiet_broken (Signal.brokenPatterns rule.trigger.signals)
  obtain ⟨exempt, -, h⟩ := Outcome.bind_eq_ok.mp h
  split at h
  · rw [← Outcome.pure_eq_ok.mp h]
    exact hexemptions.append (ReviewLog.quiet_debug _)
  · split at h
    · obtain ⟨found, -, h⟩ := Outcome.bind_eq_ok.mp h
      split at h
      · rw [← Outcome.pure_eq_ok.mp h]
        exact hexemptions.append hsignals
      · rw [← Outcome.pure_eq_ok.mp h]
        exact (hexemptions.append hsignals).append (ReviewLog.quiet_debug _)
    · rw [← Outcome.pure_eq_ok.mp h]
      exact hexemptions

/-- A rule of a known type is not warned of. -/
theorem log_quiet {entries : List PathLines} (hknown : rule.trigger.kind?.isSome)
    (h : rule.log options entries = .ok log) : log.Quiet := by
  obtain ⟨kind, hkind⟩ := Option.isSome_iff_exists.mp hknown
  simp only [RuleConstraint.log, hkind] at h
  cases kind with
  | llm =>
      rw [← Outcome.pure_eq_ok.mp h]
      exact ReviewLog.quiet_debug _
  | pattern | heuristic | hybrid =>
      obtain ⟨logs, hlogs, h⟩ := Outcome.bind_eq_ok.mp h
      rw [← Outcome.pure_eq_ok.mp h]
      refine (ReviewLog.quiet_debug _).append (ReviewLog.quiet_concat fun log hlog => ?_)
      obtain ⟨entry, -, hentry⟩ := Outcome.exists_of_mem_mapM hlogs log hlog
      exact fileLog_quiet hentry

end RuleConstraint

/-- **A review of rules of known types skips none of them.** -/
theorem Review.log_quiet [Host] {diff : Text} {document : Json} {options : ReviewOptions}
    {log : ReviewLog} {set : Option RuleSet} (hset : RuleSet.ofJson document = .ok set)
    (hknown : ∀ rule ∈ RuleConstraint.ofRules set, rule.trigger.kind?.isSome)
    (h : Review.log diff document options = .ok log) : log.Quiet := by
  obtain ⟨files, -, h⟩ := Outcome.bind_eq_ok.mp h
  obtain ⟨set', hset', h⟩ := Outcome.bind_eq_ok.mp h
  have hsame := Except.ok.inj (hset.symm.trans (Outcome.mapError_eq_ok.mp hset'))
  subst hsame
  dsimp only at h
  obtain ⟨logs, hlogs, h⟩ := Outcome.bind_eq_ok.mp h
  rw [← Outcome.pure_eq_ok.mp h]
  refine ReviewLog.quiet_concat fun log hlog => ?_
  obtain ⟨rule, hrule, hlog⟩ := Outcome.exists_of_mem_mapM hlogs log hlog
  exact RuleConstraint.log_quiet (hknown rule hrule) hlog

end PatchReview
