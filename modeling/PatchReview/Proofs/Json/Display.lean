/-
Fields, and how values display.

A field of a value is null when it is missing, so a field that is something else is
there.  A string displays as itself and a list of strings as its strings, which is why a
document that has strings where texts are expected is read without a change.  Only what
says nothing displays as nothing.  Only a number too long to be written does not display,
so a value without one displays however it is nested, and so does every part of it.
-/
import PatchReview.Json.Display
import PatchReview.Proofs.Number.Decimal
import PatchReview.Proofs.Outcome

namespace PatchReview

namespace Json

variable {v : Json} {key : Text}

theorem get?_of_field {w : Json} (h : v.field key = w) (hw : w ≠ .null) : v.get? key = some w := by
  rw [field] at h
  cases hget : v.get? key with
  | none => rw [hget] at h; exact absurd h.symm hw
  | some u => rw [hget] at h; rw [← h]; rfl

theorem field_of_get? {w : Json} (h : v.get? key = some w) : v.field key = w := by
  rw [field, h]
  rfl

theorem field_of_get?_eq_none (h : v.get? key = none) : v.field key = .null := by
  rw [field, h]
  rfl

theorem string?_eq_some {t : Text} (h : v.string? = some t) : v = .string t := by
  cases v with
  | string u => rw [Option.some.inj h]
  | null | bool | int | float | array | object => exact absurd h (by simp [string?])

theorem int?_eq_some {n : Int} (h : v.int? = some n) : v = .int n := by
  cases v with
  | int m => rw [Option.some.inj h]
  | null | bool | string | float | array | object => exact absurd h (by simp [int?])

/-- A string displays as itself, an empty one as what stands for it. -/
theorem displayOr_string (fallback t : Text) :
    displayOr fallback (.string t) = .ok (if t.isEmpty then fallback else t) := by
  rw [displayOr, isEmpty]
  split <;> rfl

@[simp] theorem displayOr_nil_string (t : Text) : displayOr [] (.string t) = .ok t := by
  rw [displayOr_string]
  cases t <;> rfl

/-- A list of strings displays as its strings. -/
theorem mapM_display_strings (texts : List Text) : (texts.map string).mapM display = .ok texts := by
  rw [Outcome.mapM_eq_ok]
  induction texts with
  | nil => exact List.Forall₂.nil
  | cons t texts ih => exact List.Forall₂.cons rfl ih

theorem displayItems_strings (texts : List Text) : (strings texts).displayItems = .ok texts :=
  mapM_display_strings texts

/-! ### What displays as nothing -/

/-- What displays inside another value is never nothing. -/
theorem inner_ne_nil {t : Text} (h : v.inner = .ok t) : t ≠ [] := by
  cases v with
  | null =>
      rw [inner] at h
      rw [← Except.ok.inj h]
      decide
  | bool b =>
      rw [inner] at h
      rw [← Except.ok.inj h]
      cases b <;> decide
  | int n =>
      rw [inner, Decimal.write] at h
      split at h
      · rw [← Except.ok.inj h]
        exact Decimal.ofInt_ne_nil n
      · exact absurd h (by simp)
  | float x =>
      rw [inner] at h
      rw [← Except.ok.inj h]
      exact x.write_ne_nil
  | string s =>
      rw [inner] at h
      rw [← Except.ok.inj h]
      simp [Text.quoted]
  | array items =>
      rw [inner] at h
      obtain ⟨ts, -, h⟩ := Outcome.bind_eq_ok.mp h
      rw [← Outcome.pure_eq_ok.mp h]
      exact List.append_ne_nil_of_right_ne_nil _ (by decide)
  | object fields =>
      rw [inner] at h
      obtain ⟨ts, -, h⟩ := Outcome.bind_eq_ok.mp h
      rw [← Outcome.pure_eq_ok.mp h]
      exact List.append_ne_nil_of_right_ne_nil _ (by decide)

/-- A value that says something displays as something. -/
theorem display_ne_nil {t : Text} (h : v.display = .ok t) (hfull : v.isEmpty = false) : t ≠ [] := by
  cases v with
  | string s =>
      rw [← Except.ok.inj h]
      simpa [isEmpty] using hfull
  | null | bool | int | float | array | object => exact inner_ne_nil h

theorem displayOr_ne_nil {fallback t : Text} (hfallback : fallback ≠ [])
    (h : v.displayOr fallback = .ok t) : t ≠ [] := by
  rw [displayOr] at h
  split at h
  · rw [← Except.ok.inj h]
    exact hfallback
  · rename_i hfull
    exact display_ne_nil h (by simpa using hfull)

/-! ### Numbers that can be written -/

mutual

/-- Whether all whole numbers in a value can be written. -/
def isWritable : Json → Bool
  | int n => Decimal.isWritable n.natAbs
  | array items => areWritable items
  | object fields => haveWritable fields
  | null | bool _ | float _ | string _ => true

/-- Whether all whole numbers in some items can be written. -/
def areWritable : List Json → Bool
  | [] => true
  | v :: rest => v.isWritable && areWritable rest

/-- Whether all whole numbers in some fields can be written. -/
def haveWritable : List (Text × Json) → Bool
  | [] => true
  | (_, v) :: rest => v.isWritable && haveWritable rest

end

mutual

/-- How deep a value is nested. -/
def nesting : Json → Nat
  | array items => nestingOfItems items + 1
  | object fields => nestingOfFields fields + 1
  | null | bool _ | int _ | float _ | string _ => 0

/-- How deep some items are nested. -/
def nestingOfItems : List Json → Nat
  | [] => 0
  | v :: rest => max v.nesting (nestingOfItems rest)

/-- How deep some fields are nested. -/
def nestingOfFields : List (Text × Json) → Nat
  | [] => 0
  | (_, v) :: rest => max v.nesting (nestingOfFields rest)

end

theorem isWritable_of_mem {w : Json} {items : List Json} (h : areWritable items = true)
    (hw : w ∈ items) : w.isWritable = true := by
  induction items with
  | nil => simp at hw
  | cons v items ih =>
      rw [areWritable, Bool.and_eq_true] at h
      rcases List.mem_cons.mp hw with rfl | hw
      · exact h.1
      · exact ih h.2 hw

theorem isWritable_items (h : v.isWritable = true) : ∀ w ∈ v.items, w.isWritable = true := by
  cases v with
  | array items => exact fun w hw => isWritable_of_mem h hw
  | null | bool | int | float | string | object => simp [items]

theorem isWritable_get? {fields : Fields} {w : Json} (h : haveWritable fields = true)
    (hw : fields.get? key = some w) : w.isWritable = true := by
  induction fields with
  | nil => simp [Fields.get?] at hw
  | cons first fields ih =>
      obtain ⟨k, v⟩ := first
      rw [haveWritable, Bool.and_eq_true] at h
      rw [Fields.get?] at hw
      split at hw
      · rw [← Option.some.inj hw]
        exact h.1
      · exact ih h.2 hw

theorem isWritable_field (h : v.isWritable = true) (key : Text) :
    (v.field key).isWritable = true := by
  cases hget : v.get? key with
  | none => rw [field_of_get?_eq_none hget]; rfl
  | some w =>
      rw [field_of_get? hget]
      cases v with
      | object fields => exact isWritable_get? h hget
      | null | bool | int | float | string | array => exact absurd hget (by simp [get?])

theorem exists_write_eq_ok {n : Int} (h : Decimal.isWritable n.natAbs = true) :
    ∃ t, Decimal.write n = .ok t := ⟨Decimal.ofInt n, by rw [Decimal.write, if_pos h]⟩

mutual

/-- **A value displays if its numbers can be written.** -/
theorem exists_inner_eq_ok : (v : Json) → v.isWritable = true → ∃ t, v.inner = .ok t
  | null | bool _ | float _ | string _ => by simp [inner]
  | int n => by
      rw [isWritable, inner]
      exact exists_write_eq_ok
  | array items => by
      rw [isWritable, inner]
      intro h
      obtain ⟨ts, hts⟩ := exists_innerItems_eq_ok items h
      exact ⟨_, by rw [hts]; rfl⟩
  | object fields => by
      rw [isWritable, inner]
      intro h
      obtain ⟨ts, hts⟩ := exists_innerFields_eq_ok fields h
      exact ⟨_, by rw [hts]; rfl⟩

theorem exists_innerItems_eq_ok : (items : List Json) → areWritable items = true →
    ∃ ts, innerItems items = .ok ts
  | [] => fun _ => ⟨[], by rw [innerItems]⟩
  | v :: rest => by
      rw [areWritable, innerItems, Bool.and_eq_true]
      intro h
      obtain ⟨t, ht⟩ := exists_inner_eq_ok v h.1
      obtain ⟨ts, hts⟩ := exists_innerItems_eq_ok rest h.2
      exact ⟨_, by rw [ht, hts]; rfl⟩

theorem exists_innerFields_eq_ok : (fields : List (Text × Json)) → haveWritable fields = true →
    ∃ ts, innerFields fields = .ok ts
  | [] => fun _ => ⟨[], by rw [innerFields]⟩
  | (key, v) :: rest => by
      rw [haveWritable, innerFields, Bool.and_eq_true]
      intro h
      obtain ⟨t, ht⟩ := exists_inner_eq_ok v h.1
      obtain ⟨ts, hts⟩ := exists_innerFields_eq_ok rest h.2
      exact ⟨_, by rw [ht, hts]; rfl⟩

end

theorem exists_display_eq_ok (h : v.isWritable = true) : ∃ t, v.display = .ok t := by
  cases v with
  | string t => exact ⟨t, rfl⟩
  | null | bool | int | float | array | object => exact exists_inner_eq_ok _ h

theorem exists_displayOrEmpty_eq_ok (h : v.isWritable = true) :
    ∃ t, v.displayOrEmpty = .ok t := by
  cases v with
  | null => exact ⟨[], rfl⟩
  | bool | int | float | string | array | object =>
      simp only [displayOrEmpty]
      exact exists_display_eq_ok h

theorem exists_displayOr_eq_ok (h : v.isWritable = true) (fallback : Text) :
    ∃ t, v.displayOr fallback = .ok t := by
  unfold displayOr
  split
  · exact ⟨fallback, rfl⟩
  · exact exists_display_eq_ok h

theorem exists_displayItems_eq_ok (h : v.isWritable = true) :
    ∃ ts, v.displayItems = .ok ts :=
  Outcome.exists_mapM_eq_ok fun w hw => exists_display_eq_ok (isWritable_items h w hw)

end Json

end PatchReview
