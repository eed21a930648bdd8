/-
Strict signals are an edit of the policy.

Under strict signals every rule that has signals asks for one.  A rules document can say the
same by itself: `strictJson` sets `requireSignalMatch` in every trigger that signals are
loaded from, and loading the edited document is loading the document and making its rules
strict.  A strict rule is applied without the option as the rule itself is with it, its
findings are trimmed alike, and the boundaries look at no trigger, so the two reviews are
one, errors included.  And because the option only ever asks for more, what a strict review
reports without caps is what the other one reports, with findings left out.
-/
import PatchReview.Proofs.Json.Edit
import PatchReview.Proofs.Review.Caps
import PatchReview.Proofs.Review.Monotone

namespace PatchReview

/-! ### Strict rules -/

/-- A trigger that asks for a signal if it has any. -/
def Trigger.strict (trigger : Trigger) : Trigger :=
  { trigger with requireSignal := trigger.requireSignal || !trigger.signals.isEmpty }

/-- A rule with a strict trigger, if it has a trigger. -/
def Rule.strict (rule : Rule) : Rule := { rule with trigger := rule.trigger.map Trigger.strict }

/-- Rules that are all strict. -/
def RuleSet.strict (set : RuleSet) : RuleSet := { set with rules := set.rules.map Rule.strict }

/-- A constraint with a strict trigger. -/
def RuleConstraint.strict (rule : RuleConstraint) : RuleConstraint :=
  { rule with trigger := rule.trigger.strict }

/-- A trigger as it is written, with `requireSignalMatch` set if signals are loaded from it. -/
def Trigger.strictJson (v : Json) : Json :=
  match Trigger.ofJson v with
  | .ok (some trigger) =>
    if trigger.signals.isEmpty then v else v.withField "requireSignalMatch" (.bool true)
  | _ => v

/-- An entry of a rules document with its trigger made strict. -/
def Rule.strictJson (v : Json) : Json := v.mapField "trigger" Trigger.strictJson

/-- A rules document with the triggers of all its entries made strict. -/
def RuleSet.strictJson (v : Json) : Json := v.mapField "rules" (·.mapItems Rule.strictJson)

/-! ### Loading an edited document -/

namespace Trigger

variable {v : Json} {trigger : Trigger}

/-- Setting the field sets what is loaded from it. -/
theorem ofJson_withField_requireSignal (h : ofJson v = .ok (some trigger)) :
    ofJson (v.withField "requireSignalMatch" (.bool true))
      = .ok (some { trigger with requireSignal := true }) := by
  have hloaded : trigger.LoadedFrom v := loadedFrom_getD h
  have hother : ∀ key : Text, key ≠ "requireSignalMatch" →
      (v.withField "requireSignalMatch" (.bool true)).field key = v.field key :=
    fun key hkey => Json.field_withField_of_ne hkey v (.bool true)
  refine ofJson_of_loadedFrom ⟨?_, ?_, ?_, ?_, ?_, ?_⟩
  · exact (hother "type" (by decide)) ▸ hloaded.typeName
  · exact (hother "evidence" (by decide)) ▸ hloaded.evidence
  · exact congrArg (fun w => !Json.isEmpty w)
      (Json.field_withField_self v "requireSignalMatch" (.bool true)).symm
  · exact (hother "signals" (by decide)) ▸ hloaded.signals
  · exact (hother "exempt" (by decide)) ▸ hloaded.exempt
  · exact (hother "file_glob" (by decide)) ▸ hloaded.fileGlobs

theorem ofJson_strictJson (v : Json) : ofJson (strictJson v) = Option.map strict <$> ofJson v := by
  unfold strictJson
  cases h : ofJson v with
  | error e => rw [h]; rfl
  | ok found =>
      cases found with
      | none => rw [h]; rfl
      | some trigger =>
          cases hsignals : trigger.signals.isEmpty with
          | true =>
              have hstrict : trigger.strict = trigger := by simp [strict, hsignals]
              simp only [hsignals, if_true]
              rw [h]
              exact congrArg (fun t => Except.ok (some t)) hstrict.symm
          | false =>
              have hstrict : trigger.strict = { trigger with requireSignal := true } := by
                simp [strict, hsignals]
              simp only [hsignals, Bool.false_eq_true, if_false]
              rw [ofJson_withField_requireSignal h, ← hstrict]
              rfl

end Trigger

namespace Rule

/-- Objects that differ in how strict their triggers are describe rules that differ in that. -/
theorem ofJson_object_strict {fields fields' : Json.Fields}
    (hother : ∀ key, key ≠ ("trigger" : Text) →
      (Json.object fields').field key = (Json.object fields).field key)
    (htrigger : Trigger.ofJson ((Json.object fields').field "trigger")
      = Option.map Trigger.strict <$> Trigger.ofJson ((Json.object fields).field "trigger")) :
    ofJson (.object fields') = Option.map strict <$> ofJson (.object fields) := by
  unfold ofJson
  simp only [hother "id" (by decide), hother "area" (by decide), hother "description" (by decide),
    hother "severity" (by decide), hother "status" (by decide), hother "version" (by decide),
    htrigger]
  cases ((Json.object fields).field "id").displayOrEmpty with
  | error e => rfl
  | ok id =>
      cases hid : id.isEmpty with
      | true => simp only [bind, Except.bind, hid, if_true]; rfl
      | false =>
          simp only [bind, Except.bind, hid, Bool.false_eq_true, if_false]
          cases ((Json.object fields).field "area").displayOr [] with
          | error e => rfl
          | ok area =>
              cases ((Json.object fields).field "description").displayOr [] with
              | error e => rfl
              | ok description =>
                  cases Trigger.ofJson ((Json.object fields).field "trigger") <;> rfl

theorem ofJson_strictJson (v : Json) : ofJson (strictJson v) = Option.map strict <$> ofJson v := by
  have hother : ∀ key : Text, key ≠ "trigger" → (strictJson v).field key = v.field key :=
    fun key hkey => Json.field_mapField_of_ne hkey v Trigger.strictJson
  have htrigger : (strictJson v).field "trigger" = Trigger.strictJson (v.field "trigger") :=
    Json.field_mapField_self rfl v "trigger"
  cases v with
  | null | bool | int | float | string | array => rfl
  | object fields =>
      obtain ⟨fields', hfields'⟩ := Json.exists_mapField_object fields "trigger" Trigger.strictJson
      rw [strictJson, hfields'] at hother htrigger ⊢
      exact ofJson_object_strict hother (by rw [htrigger, Trigger.ofJson_strictJson])

end Rule

namespace RuleSet

theorem rulesOf_map_strictJson (items : List Json) :
    rulesOf (items.map Rule.strictJson) = List.map Rule.strict <$> rulesOf items := by
  induction items with
  | nil => rfl
  | cons v items ih =>
      rw [List.map_cons, rulesOf, rulesOf, Rule.ofJson_strictJson, ih]
      cases Rule.ofJson v with
      | error e => rfl
      | ok found =>
          cases rulesOf items with
          | error e => rfl
          | ok rules => cases found <;> rfl

/-- **Loading an edited document is loading it and making its rules strict.** -/
theorem ofJson_strictJson (v : Json) : ofJson (strictJson v) = Option.map strict <$> ofJson v := by
  have hother : ∀ key : Text, key ≠ "rules" → (strictJson v).field key = v.field key :=
    fun key hkey => Json.field_mapField_of_ne hkey v _
  have hrules : ((strictJson v).field "rules").items
      = (v.field "rules").items.map Rule.strictJson := by
    rw [strictJson, Json.field_mapField_self rfl, Json.items_mapItems]
  cases v with
  | null | bool | int | float | string | array => rfl
  | object fields =>
      obtain ⟨fields', hfields'⟩ := Json.exists_mapField_object fields "rules"
        (·.mapItems Rule.strictJson)
      rw [strictJson, hfields'] at hother hrules ⊢
      unfold ofJson
      simp only [hother "domain" (by decide), hother "version" (by decide), hrules,
        rulesOf_map_strictJson]
      cases rulesOf ((Json.object fields).field "rules").items with
      | error e => rfl
      | ok rules => cases ((Json.object fields).field "domain").displayOr [] <;> rfl

end RuleSet

/-! ### The rules -/

/-- The same options with the strictness decided. -/
def ReviewOptions.strictly (strict : Bool) (options : ReviewOptions) : ReviewOptions :=
  { options with strictSignals := strict }

/-- Strictness trims nothing. -/
theorem ReviewOptions.trim_strictly (strict : Bool) (options : ReviewOptions) (fs : List Finding) :
    (options.strictly strict).trim fs = options.trim fs := by
  rw [trim_eq_limited, trim_eq_limited]
  rfl

namespace RuleConstraint

theorem ofRules_strict (set : Option RuleSet) :
    ofRules (set.map RuleSet.strict) = (ofRules set).map strict := by
  rw [ofRules_eq, ofRules_eq, List.map_map]
  cases set with
  | none => rfl
  | some set =>
      have hrule : ∀ rule : Rule, ofRule rule.strict = (ofRule rule).strict := by
        rintro ⟨_, _, _, _, trigger, _, _⟩
        cases trigger <;> rfl
      show (set.rules.map Rule.strict).map ofRule = set.rules.map (strict ∘ ofRule)
      rw [List.map_map]
      exact List.map_congr_left fun rule _ => hrule rule

/-- **A strict rule asks without the option for what the rule asks with it.** -/
theorem needsSignal_strict (rule : RuleConstraint) (options : ReviewOptions) :
    rule.strict.needsSignal (options.strictly false)
      = rule.needsSignal (options.strictly true) := by
  simp [needsSignal, strict, Trigger.strict, ReviewOptions.strictly]

theorem findingsIn_strict [Host] (rule : RuleConstraint) (options : ReviewOptions) :
    rule.strict.findingsIn (options.strictly false) = rule.findingsIn (options.strictly true) := by
  funext entry
  have hreported : rule.strict.reported (options.strictly false) entry
      = rule.reported (options.strictly true) entry := by
    unfold reported
    rw [needsSignal_strict]
    rfl
  unfold findingsIn
  rw [hreported]
  rfl

theorem apply_strict [Host] (rule : RuleConstraint) (options : ReviewOptions)
    (entries : List PathLines) :
    rule.strict.apply (options.strictly false) entries
      = rule.apply (options.strictly true) entries := by
  unfold apply
  rw [findingsIn_strict]
  simp only [ReviewOptions.trim_strictly]
  rfl

theorem applyAll_strict [Host] (rules : List RuleConstraint) (options : ReviewOptions)
    (entries : List PathLines) :
    applyAll (options.strictly false) entries (rules.map strict)
      = applyAll (options.strictly true) entries rules := by
  induction rules with
  | nil => rfl
  | cons rule rules ih => rw [List.map_cons, applyAll, applyAll, apply_strict, ih]

end RuleConstraint

/-- What a rule reports when it asks for more it reports in any case. -/
theorem RulePass.findingsOf_strictly_sublist [Host] (options : ReviewOptions)
    (entries : List PathLines) (rule : RuleConstraint) :
    (findingsOf (options.strictly true) entries rule).Sublist
      (findingsOf (options.strictly false) entries rule) := by
  refine findingsOf_sublist entries rfl (fun _ hscope hexempt => ⟨hscope, hexempt⟩) ?_
  intro line hline
  have hasks : asksSignal (options.strictly false) rule = rule.trigger.requireSignal := by
    simp [asksSignal, ReviewOptions.strictly]
  rw [reports, hasks]
  rw [reports, asksSignal] at hline
  cases hrequire : rule.trigger.requireSignal with
  | false => rfl
  | true => simpa [hrequire] using hline

/-! ### The boundaries -/

/-- Findings of boundaries are graded by rules, and grading looks at no trigger. -/
theorem BoundaryRule.grading_strict (boundary : BoundaryRule) (set : Option RuleSet) :
    boundary.grading (set.map RuleSet.strict) = boundary.grading set := by
  cases set with
  | none => rfl
  | some set =>
      have hfind : set.strict.find? boundary.findingRule
          = (set.find? boundary.findingRule).map Rule.strict := by
        simp only [RuleSet.find?, RuleSet.strict, ← List.map_reverse, List.find?_map]
        rfl
      simp only [grading, Option.map_some, Option.bind_some, hfind]
      cases set.find? boundary.findingRule <;> rfl

theorem Boundaries.findings_strict (boundaries : Boundaries) (set : Option RuleSet)
    (files : List FileDiff) :
    boundaries.findings (set.map RuleSet.strict) files = boundaries.findings set files :=
  BoundaryPass.boundaryFindings_congr (fun boundary => boundary.grading_strict set)
    (some boundaries) files

/-! ### A whole review -/

namespace Review

variable {diff : Text} {document boundaries : Json} {options : ReviewOptions}

/-- A review of an edited document without the option is one of the document with it. -/
theorem ofDiff_strictJson [Host] (diff : Text) (document boundaries : Json)
    (options : ReviewOptions) :
    ofDiff diff (RuleSet.strictJson document) boundaries (options.strictly false)
      = ofDiff diff document boundaries (options.strictly true) := by
  have hruled : ∀ set files, ofRules (options.strictly false) (set.map RuleSet.strict) files
      = ofRules (options.strictly true) set files := by
    intro set files
    rw [ofRules, RuleConstraint.ofRules_strict, RuleConstraint.applyAll_strict]
    rfl
  unfold ofDiff
  rw [RuleSet.ofJson_strictJson]
  cases parsed diff with
  | error e => rfl
  | ok files =>
      cases RuleSet.ofJson document with
      | error e => rfl
      | ok set =>
          simp only [Functor.map, Except.map, Except.mapError, bind, Except.bind, hruled,
            Boundaries.findings_strict]

/-- Without caps a strict review leaves findings out, and nothing else. -/
theorem strict_sublist [Host] {strict loose : Review} (hcaps : options.Uncapped)
    (hstrict : ofDiff diff document boundaries (options.strictly true) = .ok strict)
    (hloose : ofDiff diff document boundaries (options.strictly false) = .ok loose) :
    strict.findings.Sublist loose.findings ∧ strict.tasks = loose.tasks := by
  obtain ⟨files, set, policy, hfiles, hset, hpolicy⟩ := exists_reads hstrict
  obtain rfl := eq_enumerated hfiles hset hpolicy hstrict
  obtain rfl := eq_enumerated hfiles hset hpolicy hloose
  have huntrimmed : ∀ (b : Bool) (fs : List Finding), (options.strictly b).trim fs = fs :=
    fun b fs => (ReviewOptions.trim_strictly b options fs).trans (RulePass.trim_eq_self hcaps fs)
  refine ⟨List.Sublist.append_right ?_ _, rfl⟩
  simp only [RulePass.trimmed, huntrimmed]
  exact List.Sublist.flatMap_right _ fun rule _ =>
    RulePass.findingsOf_strictly_sublist options _ rule

/-- **Strict signals are an edit of the policy.**  A review under strict signals is the review
without them by the rules whose triggers are made strict, and without caps it has the tasks of the
review by the rules as they are and some of its findings, in order. -/
theorem ofDiff_strictSignals [Host] (diff : Text) (document boundaries : Json)
    (options : ReviewOptions) :
    ofDiff diff document boundaries (options.strictly true)
        = ofDiff diff (RuleSet.strictJson document) boundaries (options.strictly false) ∧
      ∀ strict loose, options.Uncapped →
        ofDiff diff document boundaries (options.strictly true) = .ok strict →
        ofDiff diff document boundaries (options.strictly false) = .ok loose →
          strict.findings.Sublist loose.findings ∧ strict.tasks = loose.tasks :=
  ⟨(ofDiff_strictJson diff document boundaries options).symm,
    fun _ _ hcaps hstrict hloose => strict_sublist hcaps hstrict hloose⟩

/-- A rule with a signal that it does not ask for, one whose signals are no list, and one for the
other reviewer with a broken signal. -/
def offeredRules : Json :=
  .object [("rules", .array
    [.object [("id", .string "todo"), ("trigger", .object [("signals", Json.strings ["TODO"])])],
      .object [("id", .string "all"), ("trigger", .object [("signals", .string "TODO")])],
      .object [("id", .string "ask"), ("trigger", .object
        [("type", .string "llm"), ("signals", Json.strings ["("])])]])]

theorem ofDiff_strictSignals_mixed :
    ∃ strict loose,
      ofDiff RulePass.mixedDiff offeredRules mixedBoundaries { strictSignals := true }
        = .ok strict ∧
      ofDiff RulePass.mixedDiff offeredRules mixedBoundaries {} = .ok loose ∧
      ofDiff RulePass.mixedDiff (RuleSet.strictJson offeredRules) mixedBoundaries {} = .ok strict ∧
      strict.findings.length = 4 ∧ loose.findings.length = 5 ∧
      strict.findings.Sublist loose.findings ∧ strict.tasks = loose.tasks := by
  obtain ⟨strict, hstrict, hfour⟩ : ∃ review,
      ofDiff RulePass.mixedDiff offeredRules mixedBoundaries { strictSignals := true }
        = .ok review ∧ review.findings.length = 4 :=
    Outcome.exists_ok_of_toOption (by decide +kernel)
  obtain ⟨loose, hloose, hfive⟩ : ∃ review,
      ofDiff RulePass.mixedDiff offeredRules mixedBoundaries {} = .ok review ∧
      review.findings.length = 5 := Outcome.exists_ok_of_toOption (by decide +kernel)
  obtain ⟨hedited, hsublist⟩ :=
    ofDiff_strictSignals RulePass.mixedDiff offeredRules mixedBoundaries {}
  exact ⟨strict, loose, hstrict, hloose, hedited.symm.trans hstrict, hfour, hfive,
    hsublist strict loose ⟨rfl, rfl⟩ hstrict hloose⟩

end Review

end PatchReview
