/-
What every loaded rule has.

Loading drops an entry without an id and forgives nearly everything else, so whatever is
true of all loaded rules is true of the rules that single entries describe.  What it does
not forgive is a number too long to be written: a document without one is always loaded.
-/
import PatchReview.Proofs.Json.Display
import PatchReview.Rule.Constraint

namespace PatchReview

/-! ### One trigger, one rule -/

/-- How the fields of a loaded trigger come from the value that describes it. -/
structure Trigger.LoadedFrom (v : Json) (trigger : Trigger) : Prop where
  typeName : (v.field "type").displayOr TriggerKind.pattern.name = .ok trigger.typeName
  evidence : trigger.evidence
    = if (v.field "evidence").string? = some Evidence.diffAny.name then .diffAny else .addedOnly
  requireSignal : trigger.requireSignal = !(v.field "requireSignalMatch").isEmpty
  signals : (v.field "signals").displayItems = .ok trigger.signals
  exempt : (v.field "exempt").displayItems = .ok trigger.exempt
  fileGlobs : (v.field "file_glob").displayItems = .ok trigger.fileGlobs

/-- An object always describes a trigger. -/
theorem Trigger.ofJson_object_eq_ok {fields : Json.Fields} {found : Option Trigger}
    (h : Trigger.ofJson (.object fields) = .ok found) :
    ∃ trigger, found = some trigger ∧ trigger.LoadedFrom (.object fields) := by
  obtain ⟨typeName, htype, h⟩ := Outcome.bind_eq_ok.mp h
  obtain ⟨signals, hsignals, h⟩ := Outcome.bind_eq_ok.mp h
  obtain ⟨exempt, hexempt, h⟩ := Outcome.bind_eq_ok.mp h
  obtain ⟨fileGlobs, hglobs, h⟩ := Outcome.bind_eq_ok.mp h
  refine ⟨_, (Outcome.pure_eq_ok.mp h).symm, ?_⟩
  exact ⟨htype, rfl, rfl, hsignals, hexempt, hglobs⟩

/-- An object describes the trigger that has its fields from it. -/
theorem Trigger.ofJson_of_loadedFrom {fields : Json.Fields} {trigger : Trigger}
    (h : trigger.LoadedFrom (.object fields)) :
    Trigger.ofJson (.object fields) = .ok (some trigger) := by
  refine Outcome.bind_eq_ok.mpr ⟨_, h.typeName, ?_⟩
  refine Outcome.bind_eq_ok.mpr ⟨_, h.signals, ?_⟩
  refine Outcome.bind_eq_ok.mpr ⟨_, h.exempt, ?_⟩
  refine Outcome.bind_eq_ok.mpr ⟨_, h.fileGlobs, ?_⟩
  obtain ⟨typeName, evidence, requireSignal, signals, exempt, fileGlobs⟩ := trigger
  obtain rfl := h.evidence
  obtain rfl := h.requireSignal
  rfl

theorem Trigger.exists_ofJson_eq_ok {v : Json} (h : v.isWritable = true) :
    ∃ found, Trigger.ofJson v = .ok found := by
  have hfield := Json.isWritable_field h
  cases v with
  | null | bool | int | float | string | array => exact ⟨none, rfl⟩
  | object fields =>
      refine Outcome.exists_bind_eq_ok (Json.exists_displayOr_eq_ok (hfield _) _) fun _ _ => ?_
      refine Outcome.exists_bind_eq_ok (Json.exists_displayItems_eq_ok (hfield _)) fun _ _ => ?_
      refine Outcome.exists_bind_eq_ok (Json.exists_displayItems_eq_ok (hfield _)) fun _ _ => ?_
      refine Outcome.exists_bind_eq_ok (Json.exists_displayItems_eq_ok (hfield _)) fun _ _ => ?_
      exact ⟨_, rfl⟩

theorem Trigger.typeName_ne_nil {v : Json} {trigger : Trigger}
    (h : Trigger.ofJson v = .ok (some trigger)) : trigger.typeName ≠ [] := by
  cases v with
  | object fields =>
      obtain ⟨loaded, hsome, hloaded⟩ := Trigger.ofJson_object_eq_ok h
      rw [Option.some.inj hsome]
      exact Json.displayOr_ne_nil (by decide) hloaded.typeName
  | null | bool | int | float | string | array => exact absurd (Except.ok.inj h) (by simp)

/-- **A loaded trigger that is written is loaded again.** -/
theorem Trigger.ofJson_toJson {trigger : Trigger} (h : trigger.typeName ≠ []) :
    ofJson trigger.toJson = .ok (some trigger) := by
  have htype : (trigger.toJson.field "type").displayOr TriggerKind.pattern.name
      = .ok trigger.typeName := by
    show (Json.string trigger.typeName).displayOr _ = _
    simp [Json.displayOr_string, h]
  refine Outcome.bind_eq_ok.mpr ⟨_, htype, ?_⟩
  refine Outcome.bind_eq_ok.mpr ⟨_, Json.displayItems_strings trigger.signals, ?_⟩
  refine Outcome.bind_eq_ok.mpr ⟨_, Json.displayItems_strings trigger.exempt, ?_⟩
  refine Outcome.bind_eq_ok.mpr ⟨_, Json.displayItems_strings trigger.fileGlobs, ?_⟩
  obtain ⟨typeName, evidence, requireSignal, signals, exempt, fileGlobs⟩ := trigger
  cases evidence <;> cases requireSignal <;> rfl

/-- How the fields of a loaded rule come from the value that describes it. -/
structure Rule.LoadedFrom (v : Json) (rule : Rule) : Prop where
  id : (v.field "id").displayOrEmpty = .ok rule.id
  named : rule.id ≠ []
  area : (v.field "area").displayOr [] = .ok rule.area
  severity : rule.severity = Severity.ofJson (v.field "severity")
  description : (v.field "description").displayOr [] = .ok rule.description
  trigger : Trigger.ofJson (v.field "trigger") = .ok rule.trigger
  status : rule.status = (v.field "status").string?
  version : rule.version = (v.field "version").int?

/-- Nothing is loaded only if there is no id; a rule that is loaded has its fields from the
value. -/
theorem Rule.ofJson_object_eq_ok {fields : Json.Fields} {found : Option Rule}
    (h : Rule.ofJson (.object fields) = .ok found) :
    (((Json.object fields).field "id").displayOrEmpty = .ok [] ∧ found = none) ∨
      ∃ rule, found = some rule ∧ rule.LoadedFrom (.object fields) := by
  obtain ⟨id, hid, h⟩ := Outcome.bind_eq_ok.mp h
  cases hempty : id.isEmpty with
  | true =>
      simp only [hempty, if_true] at h
      rw [List.isEmpty_iff.mp hempty] at hid
      exact Or.inl ⟨hid, (Outcome.pure_eq_ok.mp h).symm⟩
  | false =>
      simp only [hempty, Bool.false_eq_true, if_false] at h
      obtain ⟨area, harea, h⟩ := Outcome.bind_eq_ok.mp h
      obtain ⟨description, hdescription, h⟩ := Outcome.bind_eq_ok.mp h
      obtain ⟨trigger, htrigger, h⟩ := Outcome.bind_eq_ok.mp h
      refine Or.inr ⟨_, (Outcome.pure_eq_ok.mp h).symm, ?_⟩
      exact ⟨hid, by simpa using hempty, harea, rfl, hdescription, htrigger, rfl, rfl⟩

/-- An object without an id describes no rule. -/
theorem Rule.ofJson_of_noId {fields : Json.Fields}
    (h : ((Json.object fields).field "id").displayOrEmpty = .ok []) :
    Rule.ofJson (.object fields) = .ok none :=
  Outcome.bind_eq_ok.mpr ⟨[], h, rfl⟩

/-- An object describes the rule that has its fields from it. -/
theorem Rule.ofJson_of_loadedFrom {fields : Json.Fields} {rule : Rule}
    (h : rule.LoadedFrom (.object fields)) : Rule.ofJson (.object fields) = .ok (some rule) := by
  have hnamed : ¬rule.id.isEmpty = true := by simpa using h.named
  refine Outcome.bind_eq_ok.mpr ⟨_, h.id, ?_⟩
  rw [if_neg hnamed]
  refine Outcome.bind_eq_ok.mpr ⟨_, h.area, ?_⟩
  refine Outcome.bind_eq_ok.mpr ⟨_, h.description, ?_⟩
  refine Outcome.bind_eq_ok.mpr ⟨_, h.trigger, ?_⟩
  obtain ⟨id, area, severity, description, trigger, status, version⟩ := rule
  obtain rfl := h.severity
  obtain rfl := h.status
  obtain rfl := h.version
  rfl

theorem Rule.loadedFrom {v : Json} {rule : Rule} (h : Rule.ofJson v = .ok (some rule)) :
    rule.LoadedFrom v := by
  cases v with
  | object fields =>
      rcases Rule.ofJson_object_eq_ok h with ⟨-, hnone⟩ | ⟨loaded, hsome, hloaded⟩
      · exact absurd hnone (by simp)
      · rw [Option.some.inj hsome]
        exact hloaded
  | null | bool | int | float | string | array => exact absurd (Except.ok.inj h) (by simp)

theorem Rule.id_ne_nil {v : Json} {rule : Rule} (h : Rule.ofJson v = .ok (some rule)) :
    rule.id ≠ [] := (Rule.loadedFrom h).named

theorem Rule.exists_ofJson_eq_ok {v : Json} (h : v.isWritable = true) :
    ∃ found, Rule.ofJson v = .ok found := by
  have hfield := Json.isWritable_field h
  cases v with
  | null | bool | int | float | string | array => exact ⟨none, rfl⟩
  | object fields =>
      refine Outcome.exists_bind_eq_ok (Json.exists_displayOrEmpty_eq_ok (hfield _)) fun id _ => ?_
      split
      · exact ⟨none, rfl⟩
      refine Outcome.exists_bind_eq_ok (Json.exists_displayOr_eq_ok (hfield _) _) fun _ _ => ?_
      refine Outcome.exists_bind_eq_ok (Json.exists_displayOr_eq_ok (hfield _) _) fun _ _ => ?_
      exact Outcome.exists_bind_eq_ok (Trigger.exists_ofJson_eq_ok (hfield _)) fun _ _ => ⟨_, rfl⟩

/-! ### Documents -/

namespace RuleSet

/-- Every loaded rule is described by an item of the list. -/
theorem exists_of_mem_rulesOf {items : List Json} {rules : List Rule}
    (h : rulesOf items = .ok rules) :
    ∀ rule ∈ rules, ∃ v ∈ items, Rule.ofJson v = .ok (some rule) := by
  induction items generalizing rules with
  | nil =>
      rw [← Except.ok.inj h]
      simp
  | cons v items ih =>
      obtain ⟨found, hfound, h⟩ := Outcome.bind_eq_ok.mp h
      obtain ⟨others, hothers, h⟩ := Outcome.bind_eq_ok.mp h
      intro rule hrule
      rw [← Outcome.pure_eq_ok.mp h, List.mem_append, Option.mem_toList] at hrule
      rcases hrule with hrule | hrule
      · exact ⟨v, by simp, by rw [hfound, hrule]⟩
      · obtain ⟨w, hw, hrule⟩ := ih hothers rule hrule
        exact ⟨w, by simp [hw], hrule⟩

/-- The rules of a document; without a document there are none. -/
def loaded (set : Option RuleSet) : List Rule := set.elim [] RuleSet.rules

/-- A document has the rules that its list of rules describes. -/
theorem rulesOf_of_ofJson {v : Json} {set : Option RuleSet} (h : RuleSet.ofJson v = .ok set) :
    rulesOf (v.field "rules").items = .ok (loaded set) := by
  unfold RuleSet.ofJson at h
  split at h
  · obtain ⟨rules, hrules, h⟩ := Outcome.bind_eq_ok.mp h
    obtain ⟨domain, -, h⟩ := Outcome.bind_eq_ok.mp h
    rw [← Outcome.pure_eq_ok.mp h]
    exact hrules
  · rename_i hobject
    rw [← Except.ok.inj h]
    cases v with
    | object fields => exact absurd rfl (hobject fields)
    | null | bool | int | float | string | array => rfl

theorem exists_rulesOf_eq_ok {items : List Json} (h : ∀ v ∈ items, v.isWritable = true) :
    ∃ rules, rulesOf items = .ok rules := by
  induction items with
  | nil => exact ⟨[], rfl⟩
  | cons v items ih =>
      refine Outcome.exists_bind_eq_ok (Rule.exists_ofJson_eq_ok (h v (by simp))) fun _ _ => ?_
      exact Outcome.exists_bind_eq_ok (ih fun w hw => h w (by simp [hw])) fun _ _ => ⟨_, rfl⟩

/-- **A rules document is loaded, whatever it holds**, if its numbers can be written. -/
theorem exists_ofJson_eq_ok {v : Json} (h : v.isWritable = true) :
    ∃ set, RuleSet.ofJson v = .ok set := by
  have hfield := Json.isWritable_field h
  cases v with
  | null | bool | int | float | string | array => exact ⟨none, rfl⟩
  | object fields =>
      refine Outcome.exists_bind_eq_ok (exists_rulesOf_eq_ok (Json.isWritable_items (hfield _)))
        fun _ _ => ?_
      exact Outcome.exists_bind_eq_ok (Json.exists_displayOr_eq_ok (hfield _) _) fun _ _ => ⟨_, rfl⟩

end RuleSet

namespace RuleConstraint

theorem ofRules_eq (set : Option RuleSet) : ofRules set = (RuleSet.loaded set).map ofRule := by
  cases set <;> rfl

/-- Every constraint that a document gives rise to has an id. -/
theorem id_ne_nil {v : Json} {set : Option RuleSet} (h : RuleSet.ofJson v = .ok set) :
    ∀ rule ∈ ofRules set, rule.id ≠ [] := by
  intro constraint hconstraint
  rw [ofRules_eq] at hconstraint
  obtain ⟨rule, hrule, rfl⟩ := List.mem_map.mp hconstraint
  obtain ⟨w, -, hw⟩ := RuleSet.exists_of_mem_rulesOf (RuleSet.rulesOf_of_ofJson h) rule hrule
  exact Rule.id_ne_nil hw

end RuleConstraint

end PatchReview
