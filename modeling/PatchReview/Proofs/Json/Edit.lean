/-
Editing a value.

Setting a field of a value changes what is read from that field and nothing else, and so
does changing a field that is there.
-/
import PatchReview.Json.Basic

namespace PatchReview

namespace Json

/-- The fields of an object; other values have none. -/
def fieldsOf : Json → Fields
  | object fields => fields
  | _ => []

/-- A value with a field set; one that is no object becomes an object of that field alone. -/
def withField (v : Json) (key : Text) (value : Json) : Json :=
  object (Fields.insert key value v.fieldsOf)

/-- A value with a field changed if it has the field. -/
def mapField (v : Json) (key : Text) (change : Json → Json) : Json :=
  match v.get? key with
  | none => v
  | some value => v.withField key (change value)

/-- A value with its items changed if it is an array. -/
def mapItems (v : Json) (change : Json → Json) : Json :=
  match v with
  | array items => array (items.map change)
  | v => v

variable {key other : Text} {change : Json → Json}

theorem get?_insert_self (key : Text) (value : Json) (fields : Fields) :
    Fields.get? key (Fields.insert key value fields) = some value := by
  induction fields with
  | nil => simp [Fields.insert, Fields.get?]
  | cons field fields ih =>
      obtain ⟨k, v⟩ := field
      by_cases hk : k = key
      · simp [Fields.insert, Fields.get?, hk]
      · simp [Fields.insert, Fields.get?, hk, ih]

theorem get?_insert_of_ne (h : other ≠ key) (value : Json) (fields : Fields) :
    Fields.get? other (Fields.insert key value fields) = Fields.get? other fields := by
  induction fields with
  | nil => simp [Fields.insert, Fields.get?, h.symm]
  | cons field fields ih =>
      obtain ⟨k, v⟩ := field
      by_cases hk : k = key
      · simp [Fields.insert, Fields.get?, hk, h.symm]
      · rw [Fields.insert, if_neg hk, Fields.get?, Fields.get?, ih]

theorem get?_eq (v : Json) (key : Text) : v.get? key = Fields.get? key v.fieldsOf := by
  cases v <;> rfl

theorem get?_withField_self (v : Json) (key : Text) (value : Json) :
    (v.withField key value).get? key = some value :=
  get?_insert_self key value v.fieldsOf

theorem get?_withField_of_ne (h : other ≠ key) (v value : Json) :
    (v.withField key value).get? other = v.get? other := by
  rw [get?_eq v]
  exact get?_insert_of_ne h value v.fieldsOf

theorem field_withField_self (v : Json) (key : Text) (value : Json) :
    (v.withField key value).field key = value := by
  rw [field, get?_withField_self]
  rfl

theorem field_withField_of_ne (h : other ≠ key) (v value : Json) :
    (v.withField key value).field other = v.field other := by
  rw [field, get?_withField_of_ne h, field]

/-- An object stays an object; another value has no field to be changed. -/
theorem exists_mapField_object (fields : Fields) (key : Text) (change : Json → Json) :
    ∃ fields', (object fields).mapField key change = object fields' := by
  unfold mapField
  cases (object fields).get? key with
  | none => exact ⟨fields, rfl⟩
  | some value => exact ⟨_, rfl⟩

theorem field_mapField_of_ne (h : other ≠ key) (v : Json) (change : Json → Json) :
    (v.mapField key change).field other = v.field other := by
  unfold mapField
  cases v.get? key with
  | none => rfl
  | some value => exact field_withField_of_ne h v (change value)

/-- A change that leaves null alone is a change of the field, whether or not it is there. -/
theorem field_mapField_self (hnull : change null = null) (v : Json) (key : Text) :
    (v.mapField key change).field key = change (v.field key) := by
  unfold mapField
  cases hget : v.get? key with
  | none => rw [field, hget, Option.getD_none, hnull]
  | some value => rw [field_withField_self, field, hget, Option.getD_some]

theorem items_mapItems (v : Json) (change : Json → Json) :
    (v.mapItems change).items = v.items.map change := by
  cases v <;> rfl

end Json

end PatchReview
