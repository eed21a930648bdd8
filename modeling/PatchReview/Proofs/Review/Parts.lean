/-
A review by rules, rule by rule.

The rules of a document are applied one after another, and none looks at what another one
came to.  So a review by rules is what the rules come to, in their order, and a list of
rules that is cut anywhere is reviewed by as its parts are.
-/
import PatchReview.Proofs.Review.Run
import PatchReview.Proofs.Rule.Load

namespace PatchReview

namespace Review

/-- Reviews one after another. -/
def concat (parts : List Review) : Review :=
  { findings := parts.flatMap Review.findings, tasks := parts.flatMap Review.tasks }

theorem append_def (a b : Review) :
    a ++ b = { findings := a.findings ++ b.findings, tasks := a.tasks ++ b.tasks } := rfl

@[simp] theorem findings_append (a b : Review) : (a ++ b).findings = a.findings ++ b.findings := rfl

@[simp] theorem tasks_append (a b : Review) : (a ++ b).tasks = a.tasks ++ b.tasks := rfl

theorem concat_append (parts more : List Review) :
    concat (parts ++ more) = concat parts ++ concat more := by
  simp [concat, append_def]

end Review

namespace RuleConstraint

variable [Host] {options : ReviewOptions} {entries : List PathLines} {rules : List RuleConstraint}
  {review : Review}

/-- **Rules come to what each of them comes to**, one after another. -/
theorem applyAll_eq_ok_iff :
    applyAll options entries rules = .ok review ↔
      ∃ parts, rules.mapM (fun rule => rule.apply options entries) = .ok parts ∧
        review = Review.concat parts := by
  induction rules generalizing review with
  | nil =>
      constructor
      · intro h
        exact ⟨[], rfl, (Except.ok.inj h).symm⟩
      · rintro ⟨parts, hparts, rfl⟩
        rw [← Outcome.pure_eq_ok.mp hparts]
        rfl
  | cons rule rules ih =>
      rw [applyAll, Outcome.bind_eq_ok]
      constructor
      · rintro ⟨first, hfirst, h⟩
        obtain ⟨others, hothers, h⟩ := Outcome.bind_eq_ok.mp h
        obtain ⟨parts, hparts, rfl⟩ := ih.mp hothers
        refine ⟨first :: parts, ?_, (Outcome.pure_eq_ok.mp h).symm⟩
        exact Outcome.mapM_eq_ok.mpr (.cons hfirst (Outcome.mapM_eq_ok.mp hparts))
      · rintro ⟨parts, hparts, rfl⟩
        cases Outcome.mapM_eq_ok.mp hparts with
        | cons hfirst hrest =>
            refine ⟨_, hfirst, Outcome.bind_eq_ok.mpr ⟨_, ih.mpr ⟨_, ?_, rfl⟩, rfl⟩⟩
            exact Outcome.mapM_eq_ok.mpr hrest

theorem applyAll_append_eq_ok_iff {more : List RuleConstraint} :
    applyAll options entries (rules ++ more) = .ok review ↔
      ∃ first others, applyAll options entries rules = .ok first ∧
        applyAll options entries more = .ok others ∧ review = first ++ others := by
  simp only [applyAll_eq_ok_iff, List.mapM_append, Outcome.bind_eq_ok, Outcome.pure_eq_ok]
  constructor
  · rintro ⟨_, ⟨parts, hparts, others, hothers, rfl⟩, rfl⟩
    exact ⟨_, _, ⟨parts, hparts, rfl⟩, ⟨others, hothers, rfl⟩, Review.concat_append parts others⟩
  · rintro ⟨_, _, ⟨parts, hparts, rfl⟩, ⟨others, hothers, rfl⟩, rfl⟩
    exact ⟨_, ⟨parts, hparts, others, hothers, rfl⟩, (Review.concat_append parts others).symm⟩

end RuleConstraint

/-! ### Documents that are cut -/

namespace RuleSet

/-- A document that lists rules and says nothing else. -/
def listing (items : List Json) : Json := .object [("rules", .array items)]

theorem rulesOf_append_eq_ok_iff {items more : List Json} {rules : List Rule} :
    rulesOf (items ++ more) = .ok rules ↔
      ∃ first others, rulesOf items = .ok first ∧ rulesOf more = .ok others ∧
        rules = first ++ others := by
  induction items generalizing rules with
  | nil =>
      constructor
      · intro h
        exact ⟨[], rules, rfl, h, rfl⟩
      · rintro ⟨first, others, hfirst, hothers, rfl⟩
        rw [← Except.ok.inj hfirst]
        exact hothers
  | cons v items ih =>
      simp only [List.cons_append, rulesOf, Outcome.bind_eq_ok, Outcome.pure_eq_ok, ih]
      constructor
      · rintro ⟨found, hfound, _, ⟨first, others, hfirst, hothers, rfl⟩, rfl⟩
        exact ⟨_, others, ⟨found, hfound, first, hfirst, rfl⟩, hothers,
          (List.append_assoc _ _ _).symm⟩
      · rintro ⟨_, others, ⟨found, hfound, first, hfirst, rfl⟩, hothers, rfl⟩
        exact ⟨found, hfound, _, ⟨first, others, hfirst, hothers, rfl⟩,
          (List.append_assoc _ _ _).symm⟩

theorem ofJson_listing {items : List Json} {rules : List Rule} (h : rulesOf items = .ok rules) :
    ofJson (listing items) = .ok (some { rules }) := by
  refine Outcome.bind_eq_ok.mpr ⟨rules, h, ?_⟩
  rfl

end RuleSet

namespace Review

variable [Host] {diff : Text} {document : Json} {options : ReviewOptions} {review : Review}
  {items more : List Json}

/-- A review by rules applies the rules that the list of a document describes. -/
theorem exists_applyAll_eq_ok (h : byRules diff document options = .ok review) :
    ∃ files rules, FileDiff.parse diff = .ok files ∧
      RuleSet.rulesOf (document.field "rules").items = .ok rules ∧
      RuleConstraint.applyAll options (FileDiff.addedByFile files)
        (rules.map RuleConstraint.ofRule) = .ok review := by
  obtain ⟨files, set, hfiles, hset, h⟩ := byRules_eq_ok.mp h
  refine ⟨files, RuleSet.loaded set, hfiles, RuleSet.rulesOf_of_ofJson hset, ?_⟩
  rw [← RuleConstraint.ofRules_eq]
  exact h

theorem byRules_listing_eq_ok_iff :
    byRules diff (RuleSet.listing items) options = .ok review ↔
      ∃ files rules, FileDiff.parse diff = .ok files ∧ RuleSet.rulesOf items = .ok rules ∧
        RuleConstraint.applyAll options (FileDiff.addedByFile files)
          (rules.map RuleConstraint.ofRule) = .ok review := by
  constructor
  · exact exists_applyAll_eq_ok
  · rintro ⟨files, rules, hfiles, hrules, h⟩
    exact byRules_eq_ok.mpr ⟨files, _, hfiles, RuleSet.ofJson_listing hrules, h⟩

/-- A review by rules is one by the list of a document. -/
theorem byRules_listing (h : byRules diff document options = .ok review) :
    byRules diff (RuleSet.listing (document.field "rules").items) options = .ok review :=
  byRules_listing_eq_ok_iff.mpr (exists_applyAll_eq_ok h)

/-- **A list of rules is reviewed by as its parts are**, one after the other. -/
theorem byRules_listing_append :
    byRules diff (RuleSet.listing (items ++ more)) options = .ok review ↔
      ∃ first others, byRules diff (RuleSet.listing items) options = .ok first ∧
        byRules diff (RuleSet.listing more) options = .ok others ∧ review = first ++ others := by
  simp only [byRules_listing_eq_ok_iff]
  constructor
  · rintro ⟨files, rules, hfiles, hrules, h⟩
    obtain ⟨front, back, hfront, hback, rfl⟩ := RuleSet.rulesOf_append_eq_ok_iff.mp hrules
    rw [List.map_append] at h
    obtain ⟨first, others, hfirst, hothers, rfl⟩ := RuleConstraint.applyAll_append_eq_ok_iff.mp h
    exact ⟨first, others, ⟨files, front, hfiles, hfront, hfirst⟩,
      ⟨files, back, hfiles, hback, hothers⟩, rfl⟩
  · rintro ⟨first, others, ⟨files, front, hfiles, hfront, hfirst⟩,
      ⟨files', back, hfiles', hback, hothers⟩, rfl⟩
    obtain rfl := Except.ok.inj (hfiles.symm.trans hfiles')
    refine ⟨files, front ++ back, hfiles,
      RuleSet.rulesOf_append_eq_ok_iff.mpr ⟨front, back, hfront, hback, rfl⟩, ?_⟩
    rw [List.map_append]
    exact RuleConstraint.applyAll_append_eq_ok_iff.mpr ⟨first, others, hfirst, hothers, rfl⟩

end Review

end PatchReview
