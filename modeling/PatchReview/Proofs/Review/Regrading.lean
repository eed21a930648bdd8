/-
Grading a policy anew changes no fingerprint.

What a policy says of the area and the severity of a finding, and why an import is
forbidden, is only shown.  It decides nothing: which lines are reported depends on the
ids and triggers of the rules and on the names and globs of the boundaries, the caps
count findings by their files, and a fingerprint is made of rule, file, place and first
line of evidence.

`ungraded` takes the grading away, from rules, boundaries and findings, and it may be
taken away before a review or after it: that is what each lemma here says of one stage.
Two policies that are the same without their grading then have the same findings without
theirs, hence the same fingerprints, and a comparison of the two reviews shows no change.
-/
import PatchReview.Proofs.Finding.Compare
import PatchReview.Proofs.Review.BoundaryPart

namespace PatchReview

/-! ### Taking the grading away -/

/-- A finding without its area, its severity and its reason. -/
def Finding.ungraded (f : Finding) : Finding := { f with area := [], severity := [], why := [] }

/-- What a rule is known by and when it applies. -/
def Rule.deciding (rule : Rule) : Text × Option Trigger := (rule.id, rule.trigger)

/-- A constraint without an area, and with the least severity. -/
def RuleConstraint.ungraded (rule : RuleConstraint) : RuleConstraint :=
  { rule with area := [], severity := .info }

/-- A boundary rule without its explanation. -/
def BoundaryRule.unexplained (boundary : BoundaryRule) : BoundaryRule :=
  { boundary with explanation := none }

/-- The forbidden imports of a document; without a document there are none. -/
def Boundaries.forbiddenOf (policy : Option Boundaries) : List BoundaryRule :=
  policy.elim [] Boundaries.forbidden

theorem RuleConstraint.map_ungraded_ofRules {set set' : Option RuleSet}
    (h : (RuleSet.loaded set).map Rule.deciding = (RuleSet.loaded set').map Rule.deciding) :
    (ofRules set).map ungraded = (ofRules set').map ungraded := by
  have hconstraint : ∀ set : Option RuleSet, (ofRules set).map ungraded
      = ((RuleSet.loaded set).map Rule.deciding).map fun core : Text × Option Trigger =>
          { id := core.1, area := [], severity := .info, trigger := core.2.getD {} } := by
    intro set
    rw [ofRules_eq, List.map_map, List.map_map]
    rfl
  rw [hconstraint, hconstraint, h]

/-! ### Caps -/

/-- Caps look at no more of a finding than its file. -/
theorem ReviewOptions.map_ungraded_trim (options : ReviewOptions) (fs : List Finding) :
    (options.trim fs).map Finding.ungraded = options.trim (fs.map Finding.ungraded) := by
  have hafter : ∀ kept, (options.trimAfter kept fs).map Finding.ungraded
      = options.trimAfter kept (fs.map Finding.ungraded) := by
    induction fs with
    | nil => intro kept; rfl
    | cons f fs ih =>
        intro kept
        have hfile : f.ungraded.file = f.file := rfl
        rw [List.map_cons, trimAfter, trimAfter, hfile]
        split
        · rfl
        · split
          · exact ih kept
          · rw [List.map_cons, ih]
  exact hafter []

/-! ### The rules -/

namespace RulePass

variable {options : ReviewOptions} {entries : List PathLines}

theorem map_ungraded_findingsOf [Host] (rule : RuleConstraint) :
    (findingsOf options entries rule).map Finding.ungraded
      = (findingsOf options entries rule.ungraded).map Finding.ungraded := by
  rw [findingsOf, findingsOf, List.map_flatMap, List.map_flatMap]
  refine List.flatMap_congr fun entry _ => ?_
  rw [List.map_map, List.map_map]
  rfl

/-- **The grading of the rules decides nothing.** -/
theorem map_ungraded_trimmed [Host] (rules : List RuleConstraint) :
    (trimmed options entries rules).map Finding.ungraded
      = (trimmed options entries (rules.map RuleConstraint.ungraded)).map Finding.ungraded := by
  have hreporting : reporting (rules.map RuleConstraint.ungraded)
      = (reporting rules).map RuleConstraint.ungraded := by
    rw [reporting, List.filter_map]
    rfl
  rw [trimmed, trimmed, hreporting, List.flatMap_map, List.map_flatMap, List.map_flatMap]
  refine List.flatMap_congr fun rule _ => ?_
  rw [ReviewOptions.map_ungraded_trim, ReviewOptions.map_ungraded_trim, map_ungraded_findingsOf]

theorem tasksOf_ungraded (rules : List RuleConstraint) :
    (deferring (rules.map RuleConstraint.ungraded)).flatMap (tasksOf entries)
      = (deferring rules).flatMap (tasksOf entries) := by
  have hdeferring : deferring (rules.map RuleConstraint.ungraded)
      = (deferring rules).map RuleConstraint.ungraded := by
    rw [deferring, List.filter_map]
    rfl
  rw [hdeferring, List.flatMap_map]
  rfl

end RulePass

/-! ### The boundaries -/

namespace BoundaryPass

/-- **Neither declarations nor explanations decide what the boundaries find.** -/
theorem map_ungraded_part (policy : Option Boundaries) (rules : List Rule)
    (files : List FileDiff) :
    (part policy rules files).map Finding.ungraded
      = (part (some { forbidden := (Boundaries.forbiddenOf policy).map BoundaryRule.unexplained })
          [] files).map Finding.ungraded := by
  rw [part, part, List.map_flatMap, List.map_flatMap]
  refine List.flatMap_congr fun file _ => ?_
  rw [List.map_flatMap, List.map_flatMap]
  refine List.flatMap_congr fun line _ => ?_
  rw [List.map_flatMap, List.map_flatMap]
  refine List.flatMap_congr fun specifier _ => ?_
  rw [Option.elim_some, List.filter_map, List.map_map, List.map_map, List.map_map]
  rfl

end BoundaryPass

/-! ### A whole review -/

namespace Review

variable {diff : Text} {document boundaries : Json} {options : ReviewOptions} {review : Review}

/-- **Policies that are the same without their grading have the same findings without theirs**, and
the same tasks. -/
theorem enumerated_congr [Host] (options : ReviewOptions) {set set' : Option RuleSet}
    {policy policy' : Option Boundaries}
    (hrules : (RuleSet.loaded set).map Rule.deciding = (RuleSet.loaded set').map Rule.deciding)
    (hforbidden : (Boundaries.forbiddenOf policy).map BoundaryRule.unexplained
      = (Boundaries.forbiddenOf policy').map BoundaryRule.unexplained) (files : List FileDiff) :
    (enumerated options set policy files).findings.map Finding.ungraded
        = (enumerated options set' policy' files).findings.map Finding.ungraded ∧
      (enumerated options set policy files).tasks
        = (enumerated options set' policy' files).tasks := by
  have hconstraints := RuleConstraint.map_ungraded_ofRules hrules
  refine ⟨?_, ?_⟩
  · rw [enumerated, enumerated, List.map_append, List.map_append, RulePass.map_ungraded_trimmed,
      BoundaryPass.map_ungraded_part, hconstraints, hforbidden, ← RulePass.map_ungraded_trimmed,
      ← BoundaryPass.map_ungraded_part]
  · rw [enumerated, enumerated, ← RulePass.tasksOf_ungraded, hconstraints,
      RulePass.tasksOf_ungraded]

/-- **A policy that is graded anew finds the same.**  If two rules documents have the same ids and
triggers in the same order, and two boundaries documents the same forbidden imports up to their
explanations, the reviews of a diff have the same fingerprints, place by place, and the same tasks,
and neither has a finding that the other one lacks. -/
theorem ofDiff_regraded [Host] {document' boundaries' : Json} {review' : Review}
    {set set' : Option RuleSet} {policy policy' : Option Boundaries}
    (hset : RuleSet.ofJson document = .ok set) (hset' : RuleSet.ofJson document' = .ok set')
    (hrules : (RuleSet.loaded set).map Rule.deciding = (RuleSet.loaded set').map Rule.deciding)
    (hpolicy : Boundaries.ofJson boundaries = .ok policy)
    (hpolicy' : Boundaries.ofJson boundaries' = .ok policy')
    (hforbidden : (Boundaries.forbiddenOf policy).map BoundaryRule.unexplained
      = (Boundaries.forbiddenOf policy').map BoundaryRule.unexplained)
    (h : ofDiff diff document boundaries options = .ok review)
    (h' : ofDiff diff document' boundaries' options = .ok review') :
    review.findings.map Finding.fingerprint = review'.findings.map Finding.fingerprint ∧
      review.tasks = review'.tasks ∧
      (Comparison.ofRuns review.findings review'.findings).added = [] ∧
      (Comparison.ofRuns review.findings review'.findings).removed = [] := by
  obtain ⟨files, -, -, hfiles, -⟩ := exists_reads h
  obtain ⟨hfindings, htasks⟩ := enumerated_congr options hrules hforbidden files
  rw [← eq_enumerated hfiles hset hpolicy h, ← eq_enumerated hfiles hset' hpolicy' h']
    at hfindings htasks
  have hprints : review.findings.map Finding.fingerprint
      = review'.findings.map Finding.fingerprint := by
    have hkept : Finding.fingerprint = Finding.fingerprint ∘ Finding.ungraded := rfl
    rw [hkept, ← List.map_map, hfindings, List.map_map]
  refine ⟨hprints, htasks, ?_, ?_⟩
  · rw [Comparison.ofRuns_of_fingerprints hprints]
  · rw [Comparison.ofRuns_of_fingerprints hprints]

/-- A declaration of the boundary rule of `mixedBoundaries` and a rule that asks for a signal, both
graded in the same way. -/
def gradedRules (grading : Json.Fields) : Json :=
  .object [("rules", .array
    [.object (("id", .string "boundaries.no-db")
        :: ("trigger", .object [("type", .string "llm")]) :: grading),
      .object (("id", .string "todo") :: (todoTrigger ++ grading))])]

/-- The boundary rule of `mixedBoundaries`, explained. -/
def explainedBoundaries : Json :=
  .object [("forbidden", .array
    [.object [("rule", .string "no-db"), ("from", .object [("glob", .string "**")]),
      ("to", .object [("glob", .string "db")]), ("explain", .string "Ask the store.")]])]

/-- Another grading. -/
def criticalStyle : Json.Fields :=
  [("area", .string "style"), ("severity", .string "critical"), ("status", .string "active")]

theorem ofDiff_regraded_critical :
    ∃ set set' policy policy' review review',
      RuleSet.ofJson (gradedRules []) = .ok set ∧
      RuleSet.ofJson (gradedRules criticalStyle) = .ok set' ∧
      (RuleSet.loaded set).map Rule.deciding = (RuleSet.loaded set').map Rule.deciding ∧
      Boundaries.ofJson mixedBoundaries = .ok policy ∧
      Boundaries.ofJson explainedBoundaries = .ok policy' ∧
      (Boundaries.forbiddenOf policy).map BoundaryRule.unexplained
        = (Boundaries.forbiddenOf policy').map BoundaryRule.unexplained ∧
      ofDiff RulePass.mixedDiff (gradedRules []) mixedBoundaries {} = .ok review ∧
      ofDiff RulePass.mixedDiff (gradedRules criticalStyle) explainedBoundaries {} = .ok review' ∧
      review.findings.map Finding.severity = (["minor", "minor"] : List Text) ∧
      review'.findings.map Finding.severity = (["critical", "critical"] : List Text) ∧
      review.findings.map Finding.fingerprint = review'.findings.map Finding.fingerprint ∧
      review.tasks = review'.tasks ∧
      (Comparison.ofRuns review.findings review'.findings).added = [] ∧
      (Comparison.ofRuns review.findings review'.findings).removed = [] := by
  have hdeciding : ∀ grading ∈ [[], criticalStyle],
      ((RuleSet.ofJson (gradedRules grading)).toOption.map fun set =>
        (RuleSet.loaded set).map Rule.deciding)
        = some ([("boundaries.no-db", some { typeName := "llm" }),
            ("todo", some { requireSignal := true, signals := ["TODO"] })] :
              List (Text × Option Trigger)) := by decide +kernel
  have hforbidden : ∀ document ∈ [mixedBoundaries, explainedBoundaries],
      ((Boundaries.ofJson document).toOption.map fun policy =>
        (Boundaries.forbiddenOf policy).map BoundaryRule.unexplained)
        = some [{ name := "no-db", source := "**", target := "db" }] := by decide +kernel
  have hseverities : ((ofDiff RulePass.mixedDiff (gradedRules []) mixedBoundaries {}).toOption.map
      fun review => review.findings.map Finding.severity)
        = some (["minor", "minor"] : List Text) := by decide +kernel
  have hseverities' : ((ofDiff RulePass.mixedDiff (gradedRules criticalStyle) explainedBoundaries
      {}).toOption.map fun review => review.findings.map Finding.severity)
        = some (["critical", "critical"] : List Text) := by decide +kernel
  obtain ⟨set, hset, hrules⟩ := Outcome.exists_ok_of_toOption (hdeciding [] (by simp))
  obtain ⟨set', hset', hrules'⟩ := Outcome.exists_ok_of_toOption (hdeciding criticalStyle (by simp))
  obtain ⟨policy, hpolicy, hedges⟩ :=
    Outcome.exists_ok_of_toOption (hforbidden mixedBoundaries (by simp))
  obtain ⟨policy', hpolicy', hedges'⟩ :=
    Outcome.exists_ok_of_toOption (hforbidden explainedBoundaries (by simp))
  obtain ⟨review, h, hreview⟩ := Outcome.exists_ok_of_toOption hseverities
  obtain ⟨review', h', hreview'⟩ := Outcome.exists_ok_of_toOption hseverities'
  have hsameRules := hrules.trans hrules'.symm
  have hsameEdges := hedges.trans hedges'.symm
  exact ⟨set, set', policy, policy', review, review', hset, hset', hsameRules, hpolicy, hpolicy',
    hsameEdges, h, h', hreview, hreview',
    ofDiff_regraded hset hset' hsameRules hpolicy hpolicy' hsameEdges h h'⟩

end Review

end PatchReview
