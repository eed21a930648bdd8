/-
Computations that may fail, taken apart.

A review is a chain of steps each of which may refuse a numeral or a pattern.  That the
chain as a whole comes to a result says that each of its steps did, and these lemmas say
so for the ways in which steps are chained: one after another, under another error type,
and over a list.  What is true of the errors of all steps is true of the error that the
chain ends with.
-/
import Mathlib.Data.List.Forall2

namespace PatchReview

namespace Outcome

variable {ε ε' α β γ : Type}

theorem bind_eq_ok {x : Except ε α} {f : α → Except ε β} {b : β} :
    x >>= f = .ok b ↔ ∃ a, x = .ok a ∧ f a = .ok b := by
  cases x <;> simp [bind, Except.bind]

/-- A step after another comes to a result if both do. -/
theorem exists_bind_eq_ok {x : Except ε α} {f : α → Except ε β} (hx : ∃ a, x = .ok a)
    (hf : ∀ a, x = .ok a → ∃ b, f a = .ok b) : ∃ b, x >>= f = .ok b := by
  obtain ⟨a, ha⟩ := hx
  obtain ⟨b, hb⟩ := hf a ha
  exact ⟨b, bind_eq_ok.mpr ⟨a, ha, hb⟩⟩

theorem pure_eq_ok {a b : α} : (pure a : Except ε α) = .ok b ↔ a = b := by
  simp [pure, Except.pure]

theorem map_eq_ok {f : α → β} {x : Except ε α} {b : β} :
    f <$> x = .ok b ↔ ∃ a, x = .ok a ∧ f a = b := by
  cases x <;> simp [Functor.map, Except.map]

theorem mapError_eq_ok {f : ε → ε'} {x : Except ε α} {a : α} :
    x.mapError f = .ok a ↔ x = .ok a := by
  cases x <;> simp [Except.mapError]

theorem exists_mapError_eq_ok {f : ε → ε'} {x : Except ε α} (h : ∃ a, x = .ok a) :
    ∃ a, x.mapError f = .ok a :=
  h.imp fun _ ha => mapError_eq_ok.mpr ha

/-- What is computed from a result shows that there is one. -/
theorem exists_ok_of_toOption {x : Except ε α} {f : α → β} {b : β}
    (h : x.toOption.map f = some b) : ∃ a, x = .ok a ∧ f a = b := by
  cases x with
  | error e => exact absurd h (by simp [Except.toOption])
  | ok a => exact ⟨a, rfl, Option.some.inj h⟩

theorem eq_of_toOption {x : Except ε α} {f : α → β} {b : β} (h : x.toOption.map f = some b) :
    ∀ a, x = .ok a → f a = b := by
  rintro a rfl
  exact Option.some.inj h

theorem eq_ok_of_toOption {x : Except ε α} {a : α} (h : x.toOption = some a) : x = .ok a := by
  cases x with
  | error e => exact absurd h (by simp [Except.toOption])
  | ok b => exact congrArg Except.ok (Option.some.inj h)

/-- A pass over a list comes to a result if it does so for every item. -/
theorem mapM_eq_ok {f : α → Except ε β} {l : List α} {out : List β} :
    l.mapM f = .ok out ↔ List.Forall₂ (fun a b => f a = .ok b) l out := by
  induction l generalizing out with
  | nil => rw [List.mapM_nil, pure_eq_ok, List.forall₂_nil_left_iff, eq_comm]
  | cons a l ih =>
      rw [List.mapM_cons, bind_eq_ok, List.forall₂_cons_left_iff]
      constructor
      · rintro ⟨b, hb, hrest⟩
        obtain ⟨bs, hbs, hout⟩ := bind_eq_ok.mp hrest
        exact ⟨b, bs, hb, ih.mp hbs, (pure_eq_ok.mp hout).symm⟩
      · rintro ⟨b, bs, hb, hbs, rfl⟩
        exact ⟨b, hb, bind_eq_ok.mpr ⟨bs, ih.mpr hbs, rfl⟩⟩

theorem exists_ok_of_mapM {f : α → Except ε β} {l : List α} {out : List β}
    (h : l.mapM f = .ok out) : ∀ a ∈ l, ∃ b, f a = .ok b := by
  intro a ha
  induction mapM_eq_ok.mp h with
  | nil => simp at ha
  | cons hb hrest ih =>
      rcases List.mem_cons.mp ha with rfl | ha
      · exact ⟨_, hb⟩
      · exact ih (mapM_eq_ok.mpr hrest) ha

/-- A pass over a list comes to a result if none of its items is refused. -/
theorem exists_mapM_eq_ok {f : α → Except ε β} {l : List α} (h : ∀ a ∈ l, ∃ b, f a = .ok b) :
    ∃ out, l.mapM f = .ok out := by
  induction l with
  | nil => exact ⟨[], rfl⟩
  | cons a l ih =>
      obtain ⟨b, hb⟩ := h a (by simp)
      obtain ⟨bs, hbs⟩ := ih fun x hx => h x (by simp [hx])
      exact ⟨b :: bs, mapM_eq_ok.mpr (List.Forall₂.cons hb (mapM_eq_ok.mp hbs))⟩

/-- What a pass over a list brings comes from an item. -/
theorem exists_of_mem_mapM {f : α → Except ε β} {l : List α} {out : List β}
    (h : l.mapM f = .ok out) : ∀ b ∈ out, ∃ a ∈ l, f a = .ok b := by
  intro b hb
  induction mapM_eq_ok.mp h with
  | nil => simp at hb
  | cons ha hrest ih =>
      rcases List.mem_cons.mp hb with rfl | hb
      · exact ⟨_, by simp, ha⟩
      · obtain ⟨a, hmem, hab⟩ := ih (mapM_eq_ok.mpr hrest) hb
        exact ⟨a, by simp [hmem], hab⟩

/-- If every result is what `g` says, so is the list of results. -/
theorem mapM_eq_map {f : α → Except ε β} {g : α → β} {l : List α} {out : List β}
    (h : l.mapM f = .ok out) (hf : ∀ a ∈ l, ∀ b, f a = .ok b → b = g a) : out = l.map g := by
  induction l generalizing out with
  | nil => exact (pure_eq_ok.mp h).symm
  | cons a l ih =>
      rw [List.mapM_cons] at h
      obtain ⟨b, hb, hrest⟩ := bind_eq_ok.mp h
      obtain ⟨bs, hbs, hout⟩ := bind_eq_ok.mp hrest
      rw [← pure_eq_ok.mp hout, List.map_cons, hf a (by simp) b hb,
        ih hbs fun x hx => hf x (by simp [hx])]

/-- What is made of each result may be made of all results behind the pass. -/
theorem mapM_map_eq_ok {f : α → Except ε β} {g : β → γ} {l : List α} {out : List γ} :
    l.mapM (fun a => g <$> f a) = .ok out ↔ ∃ bs, l.mapM f = .ok bs ∧ out = bs.map g := by
  simp only [mapM_eq_ok, map_eq_ok]
  constructor
  · intro h
    induction h with
    | nil => exact ⟨[], .nil, rfl⟩
    | cons ha _ ih =>
        obtain ⟨b, hb, rfl⟩ := ha
        obtain ⟨bs, hbs, rfl⟩ := ih
        exact ⟨b :: bs, .cons hb hbs, rfl⟩
  · rintro ⟨bs, hbs, rfl⟩
    exact List.forall₂_map_right_iff.mpr (hbs.imp fun a b hb => ⟨b, hb, rfl⟩)

/-- A pass that picks items picks those that its test admits, if the test never refuses. -/
theorem filterM_eq_ok {p : α → Except ε Bool} {q : α → Bool} {l : List α}
    (h : ∀ a ∈ l, p a = .ok (q a)) : l.filterM p = .ok (l.filter q) := by
  have hloop : ∀ (l acc : List α), (∀ a ∈ l, p a = .ok (q a)) →
      l.filterAuxM p acc = .ok ((l.filter q).reverse ++ acc) := by
    intro l
    induction l with
    | nil => intro acc _; rfl
    | cons a l ih =>
        intro acc hl
        rw [List.filterAuxM, hl a (by simp)]
        have hrest := ih (cond (q a) (a :: acc) acc) fun x hx => hl x (by simp [hx])
        cases hq : q a with
        | true => simpa [hq, bind, Except.bind] using hrest
        | false => simpa [hq, bind, Except.bind] using hrest
  rw [List.filterM, hloop l [] h]
  simp [bind, Except.bind, pure, Except.pure]

/-- A pass that picks items and comes to a result has tested every one of them. -/
theorem exists_ok_of_filterM {p : α → Except ε Bool} {l out : List α}
    (h : l.filterM p = .ok out) : ∀ a ∈ l, ∃ b, p a = .ok b := by
  have hloop : ∀ (l acc out : List α), l.filterAuxM p acc = .ok out →
      ∀ a ∈ l, ∃ b, p a = .ok b := by
    intro l
    induction l with
    | nil => simp
    | cons a l ih =>
        intro acc out h x hx
        obtain ⟨b, hb, h⟩ := bind_eq_ok.mp h
        rcases List.mem_cons.mp hx with rfl | hx
        · exact ⟨b, hb⟩
        · exact ih _ out h x hx
  obtain ⟨kept, hkept, -⟩ := bind_eq_ok.mp h
  exact hloop l [] kept hkept

/-- What such a pass brings are the items that its test admits, in their order. -/
theorem filterM_eq_filter {p : α → Except ε Bool} {l out : List α} (h : l.filterM p = .ok out) :
    ∃ q : α → Bool, out = l.filter q ∧ ∀ a ∈ l, p a = .ok (q a) := by
  let q : α → Bool := fun a => (p a).toOption.getD false
  have hq : ∀ a ∈ l, p a = .ok (q a) := by
    intro a ha
    obtain ⟨b, hb⟩ := exists_ok_of_filterM h a ha
    simp [q, hb, Except.toOption]
  exact ⟨q, Except.ok.inj (h.symm.trans (filterM_eq_ok hq)), hq⟩

/-! ### Kinds of errors -/

variable {kind : ε → Prop} {kind' : ε' → Prop} {x : Except ε α}

/-- If a computation ends with an error, the error is of this kind. -/
def ErrorsAre (kind : ε → Prop) (x : Except ε α) : Prop := ∀ e, x = .error e → kind e

/-- A computation ends with an error of this kind. -/
def Fails (kind : ε → Prop) (x : Except ε α) : Prop := ∃ e, x = .error e ∧ kind e

theorem ErrorsAre.ok (a : α) : ErrorsAre kind (.ok a) := fun _ h => absurd h (by simp)

theorem ErrorsAre.error {e : ε} (h : kind e) : ErrorsAre kind (.error e : Except ε α) :=
  fun _ heq => Except.error.inj heq ▸ h

theorem ErrorsAre.bind {f : α → Except ε β} (hx : ErrorsAre kind x)
    (hf : ∀ a, x = .ok a → ErrorsAre kind (f a)) : ErrorsAre kind (x >>= f) := by
  cases x with
  | error e => exact .error (hx e rfl)
  | ok a => exact hf a rfl

theorem ErrorsAre.mapError {f : ε → ε'} (hx : ErrorsAre kind x) (hf : ∀ e, kind e → kind' (f e)) :
    ErrorsAre kind' (x.mapError f) := by
  cases x with
  | error e => exact .error (hf e (hx e rfl))
  | ok a => exact .ok a

/-- All errors are turned into errors of this kind. -/
theorem errorsAre_mapError {f : ε → ε'} (hf : ∀ e, kind' (f e)) :
    ErrorsAre kind' (x.mapError f) := by
  cases x with
  | error e => exact .error (hf e)
  | ok a => exact .ok a

theorem ErrorsAre.imp {kind' : ε → Prop} (hx : ErrorsAre kind x) (h : ∀ e, kind e → kind' e) :
    ErrorsAre kind' x := fun e he => h e (hx e he)

theorem Fails.imp {kind' : ε → Prop} (hx : Fails kind x) (h : ∀ e, kind e → kind' e) :
    Fails kind' x := by
  obtain ⟨e, he, hkind⟩ := hx
  exact ⟨e, he, h e hkind⟩

theorem Fails.bind {f : α → Except ε β} (hx : Fails kind x) : Fails kind (x >>= f) := by
  obtain ⟨e, rfl, hkind⟩ := hx
  exact ⟨e, rfl, hkind⟩

/-- What comes before the failing step must not fail in another way. -/
theorem Fails.behind {f : α → Except ε β} (hx : ErrorsAre kind x)
    (hf : ∀ a, x = .ok a → Fails kind (f a)) : Fails kind (x >>= f) := by
  cases x with
  | error e => exact ⟨e, rfl, hx e rfl⟩
  | ok a => exact hf a rfl

end Outcome

end PatchReview
