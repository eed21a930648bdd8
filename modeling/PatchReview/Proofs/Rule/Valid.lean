/-
Valid documents are loaded as they are declared.

Validation and loading read the same document in two ways: one looks for problems, the
other takes what it can get.  Where the first finds nothing, the second has nothing to
mend.  Field by field a check that passes leaves only values that loading keeps, so a
valid rule is loaded with exactly what it declares and the defaults for what it leaves
out, no rule is dropped, and none has a type that a run would skip.
-/
import PatchReview.Proofs.Json.Display
import PatchReview.Proofs.Review.Log
import PatchReview.Proofs.Rule.Load
import PatchReview.Rule.Validate

namespace PatchReview

/-! ### What is declared -/

/-- A trigger that says what a value declares, with the defaults for what it leaves out. -/
structure Trigger.DeclaredBy (v : Json) (trigger : Trigger) : Prop where
  typeName : v.get? "type" = some (.string trigger.typeName)
  /-- The type is that of a kind. -/
  known : ∃ kind, trigger.kind? = some kind ∧ kind.name = trigger.typeName
  evidence : v.get? "evidence" = some (.string trigger.evidence.name) ∨
    v.get? "evidence" = none ∧ trigger.evidence = .addedOnly
  requireSignal : v.get? "requireSignalMatch" = some (.bool trigger.requireSignal) ∨
    v.get? "requireSignalMatch" = none ∧ trigger.requireSignal = false
  signals : v.get? "signals" = some (Json.strings trigger.signals) ∨
    v.get? "signals" = none ∧ trigger.signals = []
  exempt : v.get? "exempt" = some (Json.strings trigger.exempt) ∨
    v.get? "exempt" = none ∧ trigger.exempt = []
  fileGlobs : v.get? "file_glob" = some (Json.strings trigger.fileGlobs) ∨
    v.get? "file_glob" = none ∧ trigger.fileGlobs = []

/-- A rule that says what a value declares. -/
structure Rule.DeclaredBy (v : Json) (rule : Rule) : Prop where
  id : v.get? "id" = some (.string rule.id)
  area : v.get? "area" = some (.string rule.area)
  severity : v.get? "severity" = some (.string rule.severity.name)
  status : v.get? "status" = rule.status.map .string
  trigger : v.get? "trigger" = none ∧ rule.trigger = none ∨
    ∃ w trigger, v.get? "trigger" = some w ∧ rule.trigger = some trigger ∧ trigger.DeclaredBy w

/-- A constraint that says what a value declares, and whose rule is not skipped. -/
structure RuleConstraint.DeclaredBy (v : Json) (constraint : RuleConstraint) : Prop where
  rule : ∃ rule : Rule, rule.DeclaredBy v ∧ constraint = RuleConstraint.ofRule rule
  known : constraint.trigger.kind?.isSome

/-- A document that says what a value declares, with one rule and one constraint for each item of
its list. -/
structure RuleSet.DeclaredBy (v : Json) (set : RuleSet) : Prop where
  version : v.get? "version" = some (.int set.version)
  domain : v.get? "domain" = some (.string set.domain)
  rules : ∃ items, v.get? "rules" = some (.array items) ∧
    List.Forall₂ Rule.DeclaredBy items set.rules ∧
    List.Forall₂ RuleConstraint.DeclaredBy items (RuleConstraint.ofRules (some set))
  distinct : (set.rules.map Rule.id).Nodup

/-- A rule without a trigger is applied like a pattern, one with a valid trigger by its kind. -/
theorem Rule.DeclaredBy.constraint {v : Json} {rule : Rule} (h : rule.DeclaredBy v) :
    (RuleConstraint.ofRule rule).DeclaredBy v := by
  refine ⟨⟨rule, h, rfl⟩, ?_⟩
  rcases h.trigger with ⟨-, hnone⟩ | ⟨w, trigger, -, hsome, hdeclared⟩
  · rw [RuleConstraint.ofRule, Rule.effectiveTrigger, hnone]
    exact (show ({} : Trigger).kind?.isSome = true by decide)
  · obtain ⟨kind, hkind, -⟩ := hdeclared.known
    rw [RuleConstraint.ofRule, Rule.effectiveTrigger, hsome, Option.getD_some, hkind]
    rfl

namespace RuleSet

/-! ### What a check lets pass -/

variable {v : Json} {key : Text}

theorem check_eq_nil {well : Bool} {problem : RuleProblem} :
    check well problem = [] ↔ well = true := by
  cases well <;> simp [check]

theorem ifPresent_iff {p : Json → Bool} :
    ifPresent v key p = true ↔ ∀ w, v.get? key = some w → p w = true := by
  rw [ifPresent]
  cases v.get? key <;> simp

theorem exists_of_isWord {words : List Text} (h : isWord words v = true) :
    ∃ t ∈ words, v = .string t := by
  cases v with
  | string t => exact ⟨t, List.elem_iff.mp h, rfl⟩
  | null | bool | int | float | array | object => exact absurd h (by simp [isWord])

theorem exists_of_isStringList (h : isStringList v = true) : ∃ texts, v = Json.strings texts := by
  cases v with
  | array items =>
      induction items with
      | nil => exact ⟨[], rfl⟩
      | cons item items ih =>
          simp only [isStringList, List.all_cons, Bool.and_eq_true] at h
          obtain ⟨t, ht⟩ := Option.isSome_iff_exists.mp h.1
          obtain ⟨texts, htexts⟩ := ih h.2
          refine ⟨t :: texts, ?_⟩
          rw [Json.string?_eq_some ht, Json.strings, List.map_cons, (Json.array.inj htexts)]
  | null | bool | int | float | string | object => exact absurd h (by simp [isStringList])

theorem exists_of_isBoolean (h : isBoolean v = true) : ∃ b, v = .bool b := by
  cases v with
  | bool b => exact ⟨b, rfl⟩
  | null | string | int | float | array | object => exact absurd h (by simp [isBoolean])

theorem exists_of_idProblems_eq_nil {seen : List Text} (h : idProblems seen v = []) :
    ∃ id, v = .string id ∧ id ≠ [] ∧ id ∉ seen := by
  unfold idProblems at h
  split at h
  · exact absurd h (by simp)
  · rename_i id hne
    refine ⟨id, rfl, fun hid => hne (by rw [hid]), fun hmem => ?_⟩
    rw [if_pos (List.elem_iff.mpr hmem)] at h
    exact absurd h (by simp)
  · exact absurd h (by simp)

/-! ### One trigger -/

/-- A list that may be left out is loaded as it is declared. -/
theorem declared_of_displayItems {texts : List Text} (hvalid : ifPresent v key isStringList = true)
    (hload : (v.field key).displayItems = .ok texts) :
    v.get? key = some (Json.strings texts) ∨ v.get? key = none ∧ texts = [] := by
  cases hget : v.get? key with
  | none =>
      rw [Json.field_of_get?_eq_none hget] at hload
      exact Or.inr ⟨rfl, (Except.ok.inj hload).symm⟩
  | some w =>
      obtain ⟨declared, rfl⟩ := exists_of_isStringList (ifPresent_iff.mp hvalid w hget)
      rw [Json.field_of_get? hget, Json.displayItems, Json.strings, Json.items,
        Json.mapM_display_strings] at hload
      exact Or.inl (by rw [Except.ok.inj hload])

theorem declared_evidence {evidence : Evidence}
    (hvalid : ifPresent v "evidence" (isWord (Evidence.all.map Evidence.name)) = true)
    (hload : evidence = if (v.field "evidence").string? = some Evidence.diffAny.name then .diffAny
      else .addedOnly) :
    v.get? "evidence" = some (.string evidence.name) ∨
      v.get? "evidence" = none ∧ evidence = .addedOnly := by
  cases hget : v.get? "evidence" with
  | none =>
      rw [Json.field_of_get?_eq_none hget] at hload
      exact Or.inr ⟨rfl, hload⟩
  | some w =>
      have hall : ∀ word ∈ Evidence.all.map Evidence.name, Evidence.name
          (if (Json.string word).string? = some Evidence.diffAny.name then .diffAny
            else .addedOnly) = word := by decide
      obtain ⟨word, hword, rfl⟩ := exists_of_isWord (ifPresent_iff.mp hvalid w hget)
      rw [Json.field_of_get? hget] at hload
      rw [hload, hall word hword]
      exact Or.inl rfl

theorem declared_requireSignal {requireSignal : Bool}
    (hvalid : ifPresent v "requireSignalMatch" isBoolean = true)
    (hload : requireSignal = !(v.field "requireSignalMatch").isEmpty) :
    v.get? "requireSignalMatch" = some (.bool requireSignal) ∨
      v.get? "requireSignalMatch" = none ∧ requireSignal = false := by
  cases hget : v.get? "requireSignalMatch" with
  | none =>
      rw [Json.field_of_get?_eq_none hget] at hload
      exact Or.inr ⟨rfl, hload⟩
  | some w =>
      obtain ⟨b, rfl⟩ := exists_of_isBoolean (ifPresent_iff.mp hvalid w hget)
      rw [Json.field_of_get? hget, Json.isEmpty, Bool.not_not] at hload
      exact Or.inl (by rw [hload])

/-- A word for a kind is loaded as it is, and names that kind. -/
theorem kind_of_isWord {typeName : Text}
    (hvalid : isWord (TriggerKind.all.map TriggerKind.name) v = true)
    (hload : v.displayOr TriggerKind.pattern.name = .ok typeName) :
    v = .string typeName ∧
      ∃ kind, TriggerKind.ofName? typeName = some kind ∧ kind.name = typeName := by
  have hall : ∀ word ∈ TriggerKind.all.map TriggerKind.name, word ≠ [] ∧
      ∃ kind ∈ TriggerKind.all, TriggerKind.ofName? word = some kind ∧ kind.name = word := by decide
  obtain ⟨word, hword, rfl⟩ := exists_of_isWord hvalid
  obtain ⟨hne, kind, -, hkind⟩ := hall word hword
  rw [Json.displayOr_string, if_neg (by simpa using hne)] at hload
  rw [← Except.ok.inj hload]
  exact ⟨rfl, kind, hkind⟩

/-- **A valid trigger is loaded as it is declared.** -/
theorem trigger_declaredBy {found : Option Trigger} (hvalid : triggerProblems v = [])
    (hload : Trigger.ofJson v = .ok found) :
    ∃ trigger, found = some trigger ∧ trigger.DeclaredBy v := by
  cases v with
  | object fields =>
      simp only [triggerProblems, triggerLists, List.append_eq_nil_iff, check_eq_nil,
        List.flatMap_cons, List.flatMap_nil, and_true] at hvalid
      obtain ⟨⟨⟨htype, hevidence⟩, hrequire⟩, hsignals, hexempt, hglobs⟩ := hvalid
      obtain ⟨trigger, rfl, hloaded⟩ := Trigger.ofJson_object_eq_ok hload
      obtain ⟨hname, hkind⟩ := kind_of_isWord htype hloaded.typeName
      exact ⟨trigger, rfl, Json.get?_of_field hname (by simp), hkind,
        declared_evidence hevidence hloaded.evidence,
        declared_requireSignal hrequire hloaded.requireSignal,
        declared_of_displayItems hsignals hloaded.signals,
        declared_of_displayItems hexempt hloaded.exempt,
        declared_of_displayItems hglobs hloaded.fileGlobs⟩
  | null | bool | int | float | string | array => exact absurd hvalid (by simp [triggerProblems])

/-! ### One rule -/

theorem declared_status {status : Option Text}
    (hvalid : ifPresent v "status" (isWord ruleStatuses) = true)
    (hload : status = (v.field "status").string?) : v.get? "status" = status.map .string := by
  cases hget : v.get? "status" with
  | none =>
      rw [Json.field_of_get?_eq_none hget] at hload
      rw [hload]
      rfl
  | some w =>
      obtain ⟨word, -, rfl⟩ := exists_of_isWord (ifPresent_iff.mp hvalid w hget)
      rw [Json.field_of_get? hget] at hload
      rw [hload]
      rfl

theorem declared_trigger {trigger : Option Trigger}
    (hvalid : ((v.get? "trigger").map triggerProblems).getD [] = [])
    (hload : Trigger.ofJson (v.field "trigger") = .ok trigger) :
    v.get? "trigger" = none ∧ trigger = none ∨
      ∃ w declared, v.get? "trigger" = some w ∧ trigger = some declared ∧ declared.DeclaredBy w := by
  cases hget : v.get? "trigger" with
  | none =>
      rw [Json.field_of_get?_eq_none hget] at hload
      exact Or.inl ⟨rfl, (Except.ok.inj hload).symm⟩
  | some w =>
      rw [hget] at hvalid
      rw [Json.field_of_get? hget] at hload
      obtain ⟨declared, hdeclared, hw⟩ := trigger_declaredBy hvalid hload
      exact Or.inr ⟨w, declared, rfl, hdeclared, hw⟩

theorem severity_of_isWord (hvalid : isWord (Severity.all.map Severity.name) v = true) :
    v = .string (Severity.ofJson v).name := by
  have hall : ∀ word ∈ Severity.all.map Severity.name,
      (Severity.ofJson (.string word)).name = word := by decide
  obtain ⟨word, hword, rfl⟩ := exists_of_isWord hvalid
  rw [hall word hword]

/-- **A valid rule is loaded as it is declared**, under an id that no rule before it has. -/
theorem rule_declaredBy {seen : List Text} {found : Option Rule} (hvalid : ruleProblems seen v = [])
    (hload : Rule.ofJson v = .ok found) :
    ∃ rule, found = some rule ∧ rule.DeclaredBy v ∧ rule.id ∉ seen := by
  cases v with
  | object fields =>
      simp only [ruleProblems, List.append_eq_nil_iff, check_eq_nil] at hvalid
      obtain ⟨⟨⟨⟨hid, harea⟩, hseverity⟩, hstatus⟩, htrigger⟩ := hvalid
      obtain ⟨id, hid, hne, hseen⟩ := exists_of_idProblems_eq_nil hid
      obtain ⟨area, harea⟩ := Option.isSome_iff_exists.mp harea
      have harea := Json.string?_eq_some harea
      rcases Rule.ofJson_object_eq_ok hload with ⟨hnoId, -⟩ | ⟨rule, rfl, hrule⟩
      · rw [hid] at hnoId
        exact absurd (Except.ok.inj hnoId) hne
      · have hruleId : id = rule.id := Except.ok.inj (hid ▸ hrule.id)
        have hruleArea : area = rule.area := by simpa [harea] using hrule.area
        have hruleSeverity := severity_of_isWord hseverity
        rw [← hrule.severity] at hruleSeverity
        refine ⟨rule, rfl, ⟨?_, ?_, ?_, ?_, ?_⟩, hruleId ▸ hseen⟩
        · exact Json.get?_of_field (hruleId ▸ hid) (by simp)
        · exact Json.get?_of_field (hruleArea ▸ harea) (by simp)
        · exact Json.get?_of_field hruleSeverity (by simp)
        · exact declared_status hstatus hrule.status
        · exact declared_trigger htrigger hrule.trigger
  | null | bool | int | float | string | array => exact absurd hvalid (by simp [ruleProblems])

/-! ### A whole document -/

/-- **Valid items are loaded one for one**, under ids that are all different. -/
theorem rules_declaredBy {items : List Json} {index : Nat} {seen : List Text} {rules : List Rule}
    (hvalid : listProblems index seen items = []) (hload : rulesOf items = .ok rules) :
    List.Forall₂ Rule.DeclaredBy items rules ∧ (rules.map Rule.id).Nodup ∧
      ∀ rule ∈ rules, rule.id ∉ seen := by
  induction items generalizing index seen rules with
  | nil =>
      rw [← Except.ok.inj hload]
      exact ⟨List.Forall₂.nil, List.nodup_nil, by simp⟩
  | cons v items ih =>
      obtain ⟨found, hfound, hload⟩ := Outcome.bind_eq_ok.mp hload
      obtain ⟨others, hothers, hload⟩ := Outcome.bind_eq_ok.mp hload
      rw [listProblems, List.append_eq_nil_iff, List.map_eq_nil_iff] at hvalid
      obtain ⟨rule, rfl, hrule, hseen⟩ := rule_declaredBy hvalid.1 hfound
      rw [Json.field_of_get? hrule.id] at hvalid
      obtain ⟨hrest, hnodup, hlater⟩ := ih hvalid.2 hothers
      simp only [Json.string?, Option.toList_some, List.singleton_append, List.mem_cons,
        not_or] at hlater
      rw [← Outcome.pure_eq_ok.mp hload, Option.toList_some, List.singleton_append]
      refine ⟨List.Forall₂.cons hrule hrest, ?_, ?_⟩
      · rw [List.map_cons, List.nodup_cons]
        refine ⟨fun hmem => ?_, hnodup⟩
        obtain ⟨other, hother, hid⟩ := List.mem_map.mp hmem
        exact (hlater other hother).1 hid
      · intro other hother
        rcases List.mem_cons.mp hother with rfl | hother
        · exact hseen
        · exact (hlater other hother).2

/-- **A valid document is loaded as it is declared.** -/
theorem document_declaredBy {document : Json} {found : Option RuleSet}
    (hvalid : problems document = []) (hload : RuleSet.ofJson document = .ok found) :
    ∃ set, found = some set ∧ set.DeclaredBy document := by
  cases document with
  | object fields =>
      simp only [problems, List.append_eq_nil_iff, ite_eq_left_iff, reduceCtorEq, imp_false,
        not_not] at hvalid
      obtain ⟨⟨hversion, hdomain⟩, hitems⟩ := hvalid
      obtain ⟨version, hversion⟩ := Option.isSome_iff_exists.mp hversion
      obtain ⟨domain, hdomain⟩ := Option.isSome_iff_exists.mp hdomain
      have hdomain := Json.string?_eq_some hdomain
      obtain ⟨items, hlist, hitems⟩ :
          ∃ items, (Json.object fields).field "rules" = .array items ∧
            listProblems 0 [] items = [] := by
        split at hitems
        · rename_i items hlist
          exact ⟨items, hlist, hitems⟩
        · exact absurd hitems (by simp)
      obtain ⟨rules, hrules, hload⟩ := Outcome.bind_eq_ok.mp hload
      obtain ⟨displayed, hdisplayed, hload⟩ := Outcome.bind_eq_ok.mp hload
      rw [hlist] at hrules
      rw [hdomain, Json.displayOr_nil_string] at hdisplayed
      rw [hversion, ← Except.ok.inj hdisplayed] at hload
      obtain ⟨hdeclared, hdistinct, -⟩ := rules_declaredBy hitems hrules
      refine ⟨_, (Outcome.pure_eq_ok.mp hload).symm, ?_, ?_, ⟨items, ?_, hdeclared, ?_⟩, hdistinct⟩
      · exact Json.get?_of_field (Json.int?_eq_some hversion) (by simp)
      · exact Json.get?_of_field hdomain (by simp)
      · exact Json.get?_of_field hlist (by simp)
      · exact List.forall₂_map_right_iff.mpr (hdeclared.imp fun _ _ h => h.constraint)
  | null | bool | int | float | string | array => exact absurd hvalid (by simp [problems])

theorem DeclaredBy.known {document : Json} {set : RuleSet} (h : set.DeclaredBy document) :
    ∀ constraint ∈ RuleConstraint.ofRules (some set), constraint.trigger.kind?.isSome := by
  obtain ⟨items, -, -, hconstraints⟩ := h.rules
  generalize RuleConstraint.ofRules (some set) = constraints at hconstraints
  induction hconstraints with
  | nil => simp
  | cons hconstraint hrest ih =>
      intro constraint hmem
      rcases List.mem_cons.mp hmem with rfl | hmem
      · exact hconstraint.known
      · exact ih constraint hmem

/-- **The strict check guarantees a lossless load.**  What loading returns for a valid document has
its version, its domain and, in order, one rule for each item of its list, as the item declares it,
under ids that are all different; each item gives rise to one constraint; and no review by the
document skips a rule. -/
theorem ofJson_lossless [Host] {document : Json} {found : Option RuleSet}
    (hvalid : problems document = []) (hload : RuleSet.ofJson document = .ok found) :
    ∃ set, found = some set ∧ set.DeclaredBy document ∧
      (∀ constraint ∈ RuleConstraint.ofRules found, constraint.trigger.kind? ≠ none) ∧
      ∀ diff options log, Review.log diff document options = .ok log → log.Quiet := by
  obtain ⟨set, rfl, hset⟩ := document_declaredBy hvalid hload
  refine ⟨set, rfl, hset, fun constraint hmem => ?_, fun diff options log hlog => ?_⟩
  · exact Option.isSome_iff_ne_none.mp (hset.known constraint hmem)
  · exact Review.log_quiet hload hset.known hlog

/-- A document with a rule without a trigger, one with a bare trigger, and one that leaves nothing
out. -/
def validDocument : Json :=
  .object [("version", .int 3), ("domain", .string "web"), ("rules", .array
    [.object [("id", .string "a"), ("area", .string ""), ("severity", .string "info")],
      .object [("id", .string "b"), ("area", .string "Style"), ("severity", .string "minor"),
        ("trigger", .object [("type", .string "llm")])],
      .object [("id", .string "c"), ("area", .string "Style"), ("severity", .string "critical"),
        ("status", .string "active"),
        ("trigger", .object [("type", .string "hybrid"), ("evidence", .string "diff-any"),
          ("requireSignalMatch", .bool true), ("signals", Json.strings ["TODO", "regex:x+"]),
          ("exempt", Json.strings ["ok"]), ("file_glob", Json.strings ["**/*.ts"])])]])]

theorem ofJson_lossless_validDocument :
    problems validDocument = [] ∧ ∃ found, RuleSet.ofJson validDocument = .ok found ∧
      (loaded found).map Rule.id = (["a", "b", "c"] : List Text) ∧
      ∃ set, found = some set ∧ set.DeclaredBy validDocument ∧
        (∀ constraint ∈ RuleConstraint.ofRules found, constraint.trigger.kind? ≠ none) ∧
        ∀ diff options log, Review.log diff validDocument options = .ok log → log.Quiet := by
  have hvalid : problems validDocument = [] := by decide +kernel
  have hids : ((RuleSet.ofJson validDocument).toOption.map fun found =>
      (loaded found).map Rule.id) = some (["a", "b", "c"] : List Text) := by decide +kernel
  obtain ⟨found, hload, hfound⟩ := Outcome.exists_ok_of_toOption hids
  exact ⟨hvalid, found, hload, hfound, ofJson_lossless hvalid hload⟩

end RuleSet

end PatchReview
