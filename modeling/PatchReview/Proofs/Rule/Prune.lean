/-
Leaving broken patterns out of a rules document.

A pattern that does not compile is broken.  Leaving some of the broken patterns out of the
lists of some triggers is said here as a relation of documents, for one of the lists at a
time: any rules may be concerned, any of their broken patterns may go, and everything else
stays where it is.  Loading follows it step by step.  A document that can be loaded is
loaded after the edit too, and gives the same rules but for the texts that went.
-/
import PatchReview.Proofs.Rule.Edit
import PatchReview.Signal

namespace PatchReview

/-! ### Leaving items out -/

/-- A list, and that list with some items of a kind left out. -/
inductive LeavesOut {α : Type} (p : α → Prop) : List α → List α → Prop
  | nil : LeavesOut p [] []
  | keep {l l' : List α} (a : α) (h : LeavesOut p l l') : LeavesOut p (a :: l) (a :: l')
  | drop {l l' : List α} {a : α} (ha : p a) (h : LeavesOut p l l') : LeavesOut p (a :: l) l'

namespace LeavesOut

variable {α β ε : Type} {p : α → Prop} {q : β → Prop} {l l' : List α}

theorem refl (l : List α) : LeavesOut p l l := by
  induction l with
  | nil => exact .nil
  | cons a l ih => exact ih.keep a

theorem sublist (h : LeavesOut p l l') : l'.Sublist l := by
  induction h with
  | nil => exact .slnil
  | keep a _ ih => exact ih.cons_cons a
  | drop _ _ ih => exact ih.cons _

/-- Items that fail a test may be left out of a search. -/
theorem any_eq {f : α → Bool} (h : LeavesOut p l l') (hp : ∀ a, p a → f a = false) :
    l'.any f = l.any f := by
  induction h with
  | nil => rfl
  | keep a _ ih => rw [List.any_cons, List.any_cons, ih]
  | drop ha _ ih => rw [List.any_cons, hp _ ha, Bool.false_or, ih]

/-- What becomes of the items that are left out is left out of what becomes of the list. -/
theorem mapM {f : α → Except ε β} {out : List β} (h : LeavesOut p l l')
    (hp : ∀ a b, p a → f a = .ok b → q b) (hout : l.mapM f = .ok out) :
    ∃ out', l'.mapM f = .ok out' ∧ LeavesOut q out out' := by
  simp only [Outcome.mapM_eq_ok] at hout ⊢
  induction h generalizing out with
  | nil =>
      cases hout
      exact ⟨[], .nil, .nil⟩
  | keep a _ ih =>
      obtain ⟨b, bs, hb, hbs, rfl⟩ := List.forall₂_cons_left_iff.mp hout
      obtain ⟨bs', hbs', hrest⟩ := ih hbs
      exact ⟨b :: bs', .cons hb hbs', hrest.keep b⟩
  | drop ha _ ih =>
      obtain ⟨b, bs, hb, hbs, rfl⟩ := List.forall₂_cons_left_iff.mp hout
      obtain ⟨bs', hbs', hrest⟩ := ih hbs
      exact ⟨bs', hbs', hrest.drop (hp _ b ha hb)⟩

end LeavesOut

/-! ### Broken patterns -/

/-- A signal with a pattern that does not compile. -/
def Signal.Broken [Host] (signal : Text) : Prop :=
  ∃ pattern e, Signal.pattern? signal = some pattern ∧ Regex.compile pattern = .error e

/-- A string that is such a signal. -/
def Signal.BrokenItem [Host] (v : Json) : Prop :=
  ∃ signal, v = .string signal ∧ Signal.Broken signal

theorem Signal.BrokenItem.displays [Host] {v : Json} {signal : Text} (h : Signal.BrokenItem v)
    (hdisplay : v.display = .ok signal) : Signal.Broken signal := by
  obtain ⟨t, rfl, hbroken⟩ := h
  exact Except.ok.inj hdisplay ▸ hbroken

namespace TriggerList

/-- An entry of a rules document, and that entry with broken patterns left out of a list of its
trigger. -/
inductive Prunes [Host] (list : TriggerList) : Json → Json → Prop
  | same (item : Json) : Prunes list item item
  | pruned {item : Json} {items items' : List Json}
      (hitems : (item.field "trigger").field list.key = .array items)
      (hout : LeavesOut Signal.BrokenItem items items') : Prunes list item (list.edit items' item)

/-- A rules document, and that document with broken patterns left out of a list of any of its
triggers. -/
inductive PrunesRules [Host] (list : TriggerList) : Json → Json → Prop
  | rules {document : Json} {items items' : List Json}
      (hitems : document.field "rules" = .array items)
      (hentries : List.Forall₂ list.Prunes items items') :
      PrunesRules list document (document.withField "rules" (.array items'))

end TriggerList

/-! ### Loading -/

/-- A rule, and that rule with broken patterns left out of a list of its trigger. -/
structure Rule.PrunedTo [Host] (list : TriggerList) (rule rule' : Rule) : Prop where
  untriggered : rule.untriggered = rule'.untriggered
  trigger : ∃ texts, LeavesOut Signal.Broken (list.get rule.effectiveTrigger) texts ∧
    rule'.effectiveTrigger = list.set texts rule.effectiveTrigger

theorem TriggerList.get_set_self (list : TriggerList) (texts : List Text) (trigger : Trigger) :
    list.get (list.set texts trigger) = texts := by
  cases list <;> rfl

theorem TriggerList.get_set_of_ne {list other : TriggerList} (h : other ≠ list)
    (texts : List Text) (trigger : Trigger) :
    other.get (list.set texts trigger) = other.get trigger := by
  cases list <;> cases other <;> first | rfl | exact absurd rfl h

theorem TriggerList.key_injective : Function.Injective TriggerList.key := by
  intro list other h
  cases list <;> cases other <;> first | rfl | exact absurd h (by decide)

/-- **A trigger with a list set is loaded from the value with the field set.** -/
theorem Trigger.LoadedFrom.withField {v : Json} {trigger : Trigger} {list : TriggerList}
    {items : List Json} {texts : List Text} (h : trigger.LoadedFrom v)
    (htexts : items.mapM Json.display = .ok texts) :
    (list.set texts trigger).LoadedFrom (v.withField list.key (.array items)) := by
  have hfield : ∀ key : Text, key ≠ list.key →
      (v.withField list.key (.array items)).field key = v.field key :=
    fun key hkey => Json.field_withField_of_ne hkey v _
  have hlists : ∀ other : TriggerList,
      ((v.withField list.key (.array items)).field other.key).displayItems
        = .ok (other.get (list.set texts trigger)) := by
    intro other
    by_cases hother : other = list
    · rw [hother, Json.field_withField_self, TriggerList.get_set_self]
      exact htexts
    · rw [hfield other.key fun hkey => hother (TriggerList.key_injective hkey),
        TriggerList.get_set_of_ne hother]
      exact h.displayed other
  refine ⟨?_, ?_, ?_, hlists .signals, hlists .exempt, hlists .fileGlobs⟩
  · rw [hfield "type" (by cases list <;> decide), h.typeName]
    cases list <;> rfl
  · rw [hfield "evidence" (by cases list <;> decide), ← h.evidence]
    cases list <;> rfl
  · rw [hfield "requireSignalMatch" (by cases list <;> decide), ← h.requireSignal]
    cases list <;> rfl

namespace Rule

variable {list : TriggerList}

theorem PrunedTo.refl [Host] (rule : Rule) : rule.PrunedTo list rule where
  untriggered := rfl
  trigger := ⟨list.get rule.effectiveTrigger, .refl _, by cases list <;> rfl⟩

theorem map_untriggered_of_pruned [Host] {rules rules' : List Rule}
    (h : List.Forall₂ (PrunedTo list) rules rules') :
    rules.map Rule.untriggered = rules'.map Rule.untriggered := by
  induction h with
  | nil => rfl
  | cons hrule _ ih => rw [List.map_cons, List.map_cons, hrule.untriggered, ih]

/-- A rule with another trigger is loaded from the value with the trigger set. -/
theorem LoadedFrom.withTrigger {v w : Json} {rule : Rule} {trigger : Option Trigger}
    (h : rule.LoadedFrom v) (htrigger : Trigger.ofJson w = .ok trigger) :
    Rule.LoadedFrom (v.withField "trigger" w) { rule with trigger } := by
  have hother : ∀ key : Text, key ≠ "trigger" → (v.withField "trigger" w).field key = v.field key :=
    fun key hkey => Json.field_withField_of_ne hkey v w
  refine ⟨?_, h.named, ?_, ?_, ?_, ?_, ?_, ?_⟩
  · rw [hother "id" (by decide), h.id]
  · rw [hother "area" (by decide), h.area]
  · rw [hother "severity" (by decide), ← h.severity]
  · rw [hother "description" (by decide), h.description]
  · rw [Json.field_withField_self, htrigger]
  · rw [hother "status" (by decide), ← h.status]
  · rw [hother "version" (by decide), ← h.version]

/-- An entry that is loaded is loaded with broken patterns left out, and gives the same rule but for
these. -/
theorem ofJson_of_prunes [Host] {item item' : Json} {found : Option Rule}
    (h : list.Prunes item item') (hfound : Rule.ofJson item = .ok found) :
    ∃ found', Rule.ofJson item' = .ok found' ∧
      List.Forall₂ (PrunedTo list) found.toList found'.toList := by
  cases h with
  | same => exact ⟨found, hfound, List.forall₂_same.mpr fun rule _ => .refl rule⟩
  | @pruned items items' hitems hout =>
      cases item with
      | null | bool | int | float | string | array =>
          exact absurd hitems (by simp [Json.field, Json.get?])
      | object fields =>
          rcases Rule.ofJson_object_eq_ok hfound with ⟨hnoId, rfl⟩ | ⟨rule, rfl, hrule⟩
          · refine ⟨none, Rule.ofJson_of_noId ?_, .nil⟩
            rw [← hnoId]
            exact congrArg Json.displayOrEmpty (Json.field_withField_of_ne (by decide) _ _)
          · have htrigger := Trigger.loadedFrom_getD hrule.trigger
            have htexts := htrigger.displayed list
            rw [hitems] at htexts
            obtain ⟨texts, htexts', hleft⟩ := hout.mapM (fun _ _ => Signal.BrokenItem.displays) htexts
            refine ⟨_, Rule.ofJson_of_loadedFrom (hrule.withTrigger
              (Trigger.ofJson_of_loadedFrom (htrigger.withField htexts'))), ?_⟩
            exact .cons ⟨rfl, texts, hleft, rfl⟩ .nil

end Rule

namespace RuleSet

variable [Host] {list : TriggerList}

theorem rulesOf_of_prunes {items items' : List Json} {rules : List Rule}
    (h : List.Forall₂ list.Prunes items items') (hrules : rulesOf items = .ok rules) :
    ∃ rules', rulesOf items' = .ok rules' ∧ List.Forall₂ (Rule.PrunedTo list) rules rules' := by
  induction h generalizing rules with
  | nil =>
      rw [← Except.ok.inj hrules]
      exact ⟨[], rfl, .nil⟩
  | cons hitem _ ih =>
      obtain ⟨found, hfound, hrules⟩ := Outcome.bind_eq_ok.mp hrules
      obtain ⟨others, hothers, hrules⟩ := Outcome.bind_eq_ok.mp hrules
      obtain ⟨found', hfound', hpruned⟩ := Rule.ofJson_of_prunes hitem hfound
      obtain ⟨others', hothers', hrest⟩ := ih hothers
      rw [← Outcome.pure_eq_ok.mp hrules]
      exact ⟨found'.toList ++ others', Outcome.bind_eq_ok.mpr ⟨found', hfound',
        Outcome.bind_eq_ok.mpr ⟨others', hothers', rfl⟩⟩, List.rel_append hpruned hrest⟩

/-- **A document that is loaded is loaded with broken patterns left out**, and gives the same rules
but for these. -/
theorem ofJson_of_prunesRules {document document' : Json} {set : Option RuleSet}
    (h : list.PrunesRules document document') (hset : RuleSet.ofJson document = .ok set) :
    ∃ set', RuleSet.ofJson document' = .ok set' ∧
      List.Forall₂ (Rule.PrunedTo list) (loaded set) (loaded set') := by
  obtain ⟨hitems, hentries⟩ := h
  cases document with
  | null | bool | int | float | string | array =>
      exact absurd hitems (by simp [Json.field, Json.get?])
  | object fields =>
      obtain ⟨rules, hrules, hset⟩ := Outcome.bind_eq_ok.mp hset
      obtain ⟨domain, hdomain, hset⟩ := Outcome.bind_eq_ok.mp hset
      rw [hitems] at hrules
      obtain ⟨rules', hrules', hpruned⟩ := rulesOf_of_prunes hentries hrules
      rw [← Outcome.pure_eq_ok.mp hset]
      refine ⟨_, Outcome.bind_eq_ok.mpr ⟨rules', ?_, Outcome.bind_eq_ok.mpr ⟨domain, ?_, rfl⟩⟩,
        hpruned⟩
      · exact (congrArg (fun v => rulesOf (Json.items v)) (Json.field_withField_self _ _ _)).trans
          hrules'
      · exact (congrArg (Json.displayOr []) (Json.field_withField_of_ne (by decide) _ _)).trans
          hdomain

end RuleSet

end PatchReview
