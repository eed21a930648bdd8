/-
Editing a list of a trigger.

A trigger has three lists: what a rule looks for, what exempts a file, and the files the
rule is for.  Setting one of them in a document sets that list of the loaded rule to the
texts of the new items, and changes nothing else that is loaded.
-/
import PatchReview.Proofs.Json.Edit
import PatchReview.Proofs.Review.BoundaryPart

namespace PatchReview

/-- The lists of a trigger. -/
inductive TriggerList
  | signals
  | exempt
  | fileGlobs
deriving DecidableEq, Repr

namespace TriggerList

/-- The field that a list is written in. -/
def key : TriggerList → Text
  | signals => "signals"
  | exempt => "exempt"
  | fileGlobs => "file_glob"

/-- The texts of a list. -/
def get (list : TriggerList) (trigger : Trigger) : List Text :=
  match list with
  | signals => trigger.signals
  | exempt => trigger.exempt
  | fileGlobs => trigger.fileGlobs

/-- A trigger with other texts in a list. -/
def set (list : TriggerList) (texts : List Text) (trigger : Trigger) : Trigger :=
  match list with
  | signals => { trigger with signals := texts }
  | exempt => { trigger with exempt := texts }
  | fileGlobs => { trigger with fileGlobs := texts }

/-- The items that an entry of a rules document has in a list. -/
def itemsOf (list : TriggerList) (item : Json) : List Json :=
  ((item.field "trigger").field list.key).items

/-- An entry of a rules document with other items in a list of its trigger.  An entry without a
trigger gets one with this list alone. -/
def edit (list : TriggerList) (items : List Json) (item : Json) : Json :=
  item.withField "trigger" ((item.field "trigger").withField list.key (.array items))

/-- An entry of a rules document with more items at the end of a list of its trigger. -/
def append (list : TriggerList) (more : List Json) (item : Json) : Json :=
  list.edit (list.itemsOf item ++ more) item

/-- No list decides how a rule is applied. -/
theorem kind?_set (list : TriggerList) (texts : List Text) (trigger : Trigger) :
    (list.set texts trigger).kind? = trigger.kind? := by
  cases list <;> rfl

end TriggerList

namespace Trigger

variable {v w : Json} {trigger trigger' : Trigger} {list : TriggerList}

/-- What is loaded from a value, the default if it is no object, has its fields from the value. -/
theorem loadedFrom_getD {found : Option Trigger} (h : Trigger.ofJson v = .ok found) :
    (found.getD {}).LoadedFrom v := by
  cases v with
  | object fields =>
      obtain ⟨trigger, rfl, hloaded⟩ := Trigger.ofJson_object_eq_ok h
      exact hloaded
  | null | bool | int | float | string | array =>
      rw [← Except.ok.inj h]
      exact ⟨rfl, rfl, rfl, rfl, rfl, rfl⟩

/-- Every list of a trigger is loaded from its field. -/
theorem LoadedFrom.displayed (h : trigger.LoadedFrom v) (list : TriggerList) :
    (v.field list.key).displayItems = .ok (list.get trigger) := by
  cases list with
  | signals => exact h.signals
  | exempt => exact h.exempt
  | fileGlobs => exact h.fileGlobs

/-- Values that agree outside a list describe triggers that agree outside it. -/
theorem LoadedFrom.eq_set (h : trigger.LoadedFrom v) (h' : trigger'.LoadedFrom w)
    (hfields : ∀ key, key ≠ list.key → w.field key = v.field key) :
    trigger' = list.set (list.get trigger') trigger := by
  have htype : trigger'.typeName = trigger.typeName := by
    have hsame := hfields "type" (by cases list <;> decide)
    exact Except.ok.inj (h'.typeName.symm.trans (hsame ▸ h.typeName))
  have hevidence : trigger'.evidence = trigger.evidence := by
    rw [h'.evidence, h.evidence, hfields "evidence" (by cases list <;> decide)]
  have hrequire : trigger'.requireSignal = trigger.requireSignal := by
    rw [h'.requireSignal, h.requireSignal, hfields _ (by cases list <;> decide)]
  have hlist : ∀ other : TriggerList, other ≠ list → other.get trigger' = other.get trigger := by
    intro other hother
    have hkey : other.key ≠ list.key := by
      intro hkey
      refine hother ?_
      cases other <;> cases list <;> first | rfl | exact absurd hkey (by decide)
    have hsame := hfields other.key hkey
    exact Except.ok.inj ((h'.displayed other).symm.trans (hsame ▸ h.displayed other))
  obtain ⟨_, _, _, _, _, _⟩ := trigger'
  obtain ⟨_, _, _, _, _, _⟩ := trigger
  obtain rfl := htype
  obtain rfl := hevidence
  obtain rfl := hrequire
  cases list with
  | signals =>
      obtain rfl := hlist .exempt (by decide)
      obtain rfl := hlist .fileGlobs (by decide)
      rfl
  | exempt =>
      obtain rfl := hlist .signals (by decide)
      obtain rfl := hlist .fileGlobs (by decide)
      rfl
  | fileGlobs =>
      obtain rfl := hlist .signals (by decide)
      obtain rfl := hlist .exempt (by decide)
      rfl

end Trigger

namespace Rule

variable {item : Json} {rule : Rule} {found : Option Rule} {list : TriggerList} {items : List Json}

/-- An entry that describes a rule is an object. -/
theorem exists_fields_of_ofJson (h : Rule.ofJson item = .ok (some rule)) :
    ∃ fields, item = .object fields := by
  cases item with
  | object fields => exact ⟨fields, rfl⟩
  | null | bool | int | float | string | array => exact absurd (Except.ok.inj h) (by simp)

/-- **Editing a list of an entry edits that list of the loaded rule** and nothing else. -/
theorem ofJson_edit (h : Rule.ofJson item = .ok (some rule))
    (h' : Rule.ofJson (list.edit items item) = .ok found) :
    ∃ texts, items.mapM Json.display = .ok texts ∧
      found = some { rule with trigger := some (list.set texts rule.effectiveTrigger) } := by
  obtain ⟨fields, rfl⟩ := exists_fields_of_ofJson h
  have hother : ∀ key, key ≠ ("trigger" : Text) →
      (Json.object fields).field key = (list.edit items (.object fields)).field key :=
    fun key hkey => (Json.field_withField_of_ne hkey _ _).symm
  have hsame := (SameApartFromTrigger.fields hother).untriggered_eq h h'
  obtain ⟨rule', rfl, hrule'⟩ := Option.map_eq_some_iff.mp hsame.symm
  have hloaded := Rule.loadedFrom h
  have hloaded' := Rule.loadedFrom h'
  -- The edited entry has the edited trigger, and that is an object.
  have htrigger := hloaded'.trigger
  rw [TriggerList.edit, Json.field_withField_self] at htrigger
  obtain ⟨trigger', hsome, htrigger'⟩ := Trigger.ofJson_object_eq_ok htrigger
  have hread := congrArg Json.displayItems
    (Json.field_withField_self ((Json.object fields).field "trigger") list.key (.array items))
  have hset : trigger' = list.set (list.get trigger') rule.effectiveTrigger :=
    (Trigger.loadedFrom_getD hloaded.trigger).eq_set htrigger'
      fun key hkey => Json.field_withField_of_ne hkey _ _
  refine ⟨list.get trigger', hread.symm.trans (htrigger'.displayed list), ?_⟩
  calc some rule' = some { rule'.untriggered with trigger := rule'.trigger } := rfl
    _ = some { rule.untriggered with trigger := some trigger' } := by rw [hrule', hsome]
    _ = some { rule with trigger := some (list.set (list.get trigger') rule.effectiveTrigger) } :=
        congrArg (fun t => some { rule with trigger := some t }) hset

/-- Items at the end of a list are loaded as texts at its end. -/
theorem ofJson_append {more : List Json} (h : Rule.ofJson item = .ok (some rule))
    (h' : Rule.ofJson (list.append more item) = .ok found) :
    ∃ texts trigger, more.mapM Json.display = .ok texts ∧
      trigger = list.set (list.get rule.effectiveTrigger ++ texts) rule.effectiveTrigger ∧
      found = some { rule with trigger := some trigger } := by
  obtain ⟨all, hall, rfl⟩ := ofJson_edit h h'
  rw [List.mapM_append] at hall
  obtain ⟨texts, htexts, hall⟩ := Outcome.bind_eq_ok.mp hall
  obtain ⟨others, hothers, hall⟩ := Outcome.bind_eq_ok.mp hall
  have hloaded : (list.itemsOf item).mapM Json.display = .ok (list.get rule.effectiveTrigger) :=
    (Trigger.loadedFrom_getD (Rule.loadedFrom h).trigger).displayed list
  obtain rfl := Except.ok.inj (htexts.symm.trans hloaded)
  exact ⟨others, _, hothers, rfl, by rw [← Outcome.pure_eq_ok.mp hall]⟩

end Rule

end PatchReview
