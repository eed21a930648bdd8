/-
JSON as it is printed.

Only a number too long to be written is not printed, so a value without one is printed in
every layout.  Whatever stands in its strings, no control character is printed but the
line feeds of the layout: JSON escapes the control characters in strings, and everything
else is made of brackets, digits, words and what the layout puts between them.
-/
import Mathlib.Algebra.GroupWithZero.Nat
import PatchReview.Json.Printer
import PatchReview.Proofs.Finding.Fingerprint
import PatchReview.Proofs.Json.Display
import PatchReview.Proofs.Number.Decimal

namespace PatchReview

open CodePoint (lineFeed)

namespace Text

/-- Nothing in a text is a control character, but for line feeds. -/
def Visible (t : Text) : Prop := ∀ c ∈ t, 32 ≤ c.toNat ∨ c = lineFeed

instance (t : Text) : Decidable t.Visible :=
  inferInstanceAs (Decidable (∀ c ∈ t, 32 ≤ c.toNat ∨ c = lineFeed))

theorem visible_nil : Visible [] := by simp [Visible]

theorem Visible.append {s t : Text} (hs : s.Visible) (ht : t.Visible) : (s ++ t).Visible := by
  intro c hc
  rcases List.mem_append.mp hc with hc | hc
  · exact hs c hc
  · exact ht c hc

theorem Visible.subset {s t : Text} (ht : t.Visible) (h : s ⊆ t) : s.Visible :=
  fun c hc => ht c (h hc)

theorem visible_ite {p : Prop} [Decidable p] {s t : Text} (hs : p → s.Visible)
    (ht : ¬p → t.Visible) : Visible (if p then s else t) := by
  by_cases h : p
  · rw [if_pos h]
    exact hs h
  · rw [if_neg h]
    exact ht h

theorem visible_replicate {c : CodePoint} (h : 32 ≤ c.toNat) (n : Nat) :
    Visible (List.replicate n c) := by
  intro d hd
  rw [List.eq_of_mem_replicate hd]
  exact Or.inl h

theorem visible_flatMap {f : CodePoint → Text} (h : ∀ c, (f c).Visible) (t : Text) :
    Visible (t.flatMap f) := by
  intro d hd
  obtain ⟨c, -, hd⟩ := List.mem_flatMap.mp hd
  exact h c d hd

theorem visible_join {separator : Text} (hseparator : separator.Visible) {ts : List Text}
    (h : ∀ t ∈ ts, t.Visible) : (join separator ts).Visible := by
  induction ts with
  | nil => exact visible_nil
  | cons t ts ih =>
      have hrest := ih fun u hu => h u (List.mem_cons_of_mem t hu)
      cases ts with
      | nil => exact h t (by simp)
      | cons u ts => exact ((h t (by simp)).append hseparator).append hrest

theorem visible_hexDigits (n width : Nat) : (hexDigits n width).Visible := by
  have hall : ∀ c ∈ Fingerprint.alphabet, 32 ≤ c.toNat := by decide
  exact fun c hc => Or.inl (hall c (Fingerprint.mem_alphabet_of_mem_hexDigits c hc))

end Text

open Text (Visible visible_nil visible_ite visible_replicate visible_flatMap visible_join
  visible_hexDigits)

/-! ### Numbers -/

namespace Decimal

theorem visible_ofNat (n : Nat) : (ofNat n).Visible := by
  intro c hc
  obtain ⟨hlow, -⟩ := ascii_of_mem_ofNat c hc
  exact Or.inl (by omega)

theorem visible_ofInt (n : Int) : (ofInt n).Visible := by
  cases n with
  | ofNat n => exact visible_ofNat n
  | negSucc n => exact Visible.append (s := ['-']) (by decide) (visible_ofNat (n + 1))

end Decimal

namespace Binary64

theorem visible_positional {digits : Text} (h : digits.Visible) (point : Int) :
    (positional digits point).Visible := by
  have hnoughts : ∀ n, Visible (List.replicate n (CodePoint.ofChar '0')) :=
    visible_replicate (by decide)
  unfold positional
  refine visible_ite (fun _ => (Visible.append (by decide) (hnoughts _)).append h) fun _ => ?_
  refine visible_ite (fun _ => (h.append (hnoughts _)).append (by decide)) fun _ => ?_
  exact ((h.subset (List.take_subset _ _)).append (by decide)).append
    (h.subset (List.drop_subset _ _))

theorem visible_scientific {digits : Text} (h : digits.Visible) (point : Int) :
    (scientific digits point).Visible := by
  have hsize := Decimal.visible_ofNat (point - 1).natAbs
  unfold scientific
  refine Visible.append (Visible.append (Visible.append (h.subset (List.take_subset _ _)) ?_) ?_) ?_
  · exact visible_ite (fun _ => visible_nil) fun _ =>
      Visible.append (by decide) (h.subset (List.drop_subset _ _))
  · exact visible_ite (fun _ => by decide) fun _ => by decide
  · exact visible_ite (fun _ => Visible.append (by decide) hsize) fun _ => hsize

theorem visible_writePositive (significand : Nat) (exponent : Int) :
    (writePositive significand exponent).Visible := by
  have hdigits := Decimal.visible_ofNat (shortest significand exponent).digits
  exact visible_ite (fun _ => visible_positional hdigits _) fun _ => visible_scientific hdigits _

theorem visible_write (x : Binary64) : x.write.Visible := by
  cases x with
  | finite negative significand exponent =>
      have hsize : Visible (if significand == 0 then "0.0"
          else writePositive significand exponent) :=
        visible_ite (fun _ => by decide) fun _ => visible_writePositive significand exponent
      exact visible_ite (fun _ => Visible.append (by decide) hsize) fun _ => hsize
  | infinite negative => cases negative <;> decide
  | notANumber => decide

end Binary64

namespace Json

/-! ### Parts of a printed value -/

theorem visible_floatLiteral (x : Binary64) : (floatLiteral x).Visible := by
  unfold floatLiteral
  split
  · split <;> decide
  · decide
  · exact x.visible_write

theorem visible_unitEscape (n : Nat) : (unitEscape n).Visible :=
  Visible.append (by decide) (visible_hexDigits n 4)

theorem visible_stringOne (asciiOnly : Bool) (c : CodePoint) : (stringOne asciiOnly c).Visible := by
  unfold stringOne
  refine visible_ite (fun _ => by decide) fun _ => ?_
  refine visible_ite (fun _ => by decide) fun _ => ?_
  refine visible_ite (fun _ => by decide) fun _ => ?_
  refine visible_ite (fun _ => by decide) fun _ => ?_
  refine visible_ite (fun _ => by decide) fun _ => ?_
  refine visible_ite (fun _ => by decide) fun _ => ?_
  refine visible_ite (fun _ => by decide) fun _ => ?_
  refine visible_ite (fun _ => visible_unitEscape _) fun hcontrol => ?_
  -- What is left is no control character, so it may stand as it is.
  have hself : Visible [c] := visible_replicate (Nat.le_of_not_lt hcontrol) 1
  refine visible_ite (fun _ => hself) fun _ => ?_
  refine visible_ite (fun _ => visible_unitEscape _) fun _ => ?_
  exact (visible_unitEscape _).append (visible_unitEscape _)

theorem visible_stringLiteral (asciiOnly : Bool) (t : Text) :
    (stringLiteral asciiOnly t).Visible :=
  Visible.append (Visible.append (by decide) (visible_flatMap (visible_stringOne asciiOnly) t))
    (by decide)

/-- A layout puts nothing between items that is not visible. -/
structure Layout.Visible (layout : Layout) : Prop where
  comma : layout.comma.Visible
  colon : layout.colon.Visible

theorem visible_enclose {layout : Layout} (hlayout : layout.Visible) (level : Nat)
    {opening closing : Text} (hopening : opening.Visible) (hclosing : closing.Visible)
    {items : List Text} (hitems : ∀ t ∈ items, t.Visible) :
    (enclose layout level opening closing items).Visible := by
  have hline : ∀ n, Visible (("\n" : Text) ++ List.replicate n (CodePoint.ofChar ' ')) :=
    fun n => Visible.append (by decide) (visible_replicate (by decide) n)
  unfold enclose
  split
  · exact hopening.append hclosing
  · split
    · exact (hopening.append (visible_join hlayout.comma hitems)).append hclosing
    · exact (((hopening.append (hline _)).append
        (visible_join (hlayout.comma.append (hline _)) hitems)).append (hline _)).append hclosing

/-! ### Printing -/

mutual

/-- **A value whose numbers can be written is printed**, and visibly so. -/
theorem exists_printAt_eq_ok {layout : Layout} (hlayout : layout.Visible) :
    (v : Json) → v.isWritable = true → ∀ level, ∃ t, v.printAt layout level = .ok t ∧ t.Visible
  | null => fun _ _ => ⟨_, by rw [printAt], by decide⟩
  | bool b => fun _ _ => ⟨_, by rw [printAt], by cases b <;> decide⟩
  | int n => by
      rw [isWritable]
      intro h level
      exact ⟨Decimal.ofInt n, by rw [printAt, Decimal.write, if_pos h], Decimal.visible_ofInt n⟩
  | float x => fun _ _ => ⟨_, by rw [printAt], visible_floatLiteral x⟩
  | string t => fun _ _ => ⟨_, by rw [printAt], visible_stringLiteral layout.asciiOnly t⟩
  | array items => by
      rw [isWritable]
      intro h level
      obtain ⟨ts, hts, hvisible⟩ := exists_printItems_eq_ok hlayout items h (level + 1)
      exact ⟨_, by rw [printAt, hts]; rfl,
        visible_enclose hlayout level (by decide) (by decide) hvisible⟩
  | object fields => by
      rw [isWritable]
      intro h level
      obtain ⟨ts, hts, hvisible⟩ := exists_printFields_eq_ok hlayout fields h (level + 1)
      refine ⟨_, by rw [printAt, hts]; rfl,
        visible_enclose hlayout level (by decide) (by decide) fun t ht => ?_⟩
      obtain ⟨field, hfield, rfl⟩ := List.mem_map.mp ht
      exact hvisible field (List.mem_mergeSort.mp hfield)

theorem exists_printItems_eq_ok {layout : Layout} (hlayout : layout.Visible) :
    (items : List Json) → areWritable items = true → ∀ level,
      ∃ ts, printItems layout level items = .ok ts ∧ ∀ t ∈ ts, t.Visible
  | [] => fun _ _ => ⟨[], by rw [printItems], by simp⟩
  | v :: rest => by
      rw [areWritable, Bool.and_eq_true]
      intro h level
      obtain ⟨t, ht, hfirst⟩ := exists_printAt_eq_ok hlayout v h.1 level
      obtain ⟨ts, hts, hrest⟩ := exists_printItems_eq_ok hlayout rest h.2 level
      exact ⟨t :: ts, by rw [printItems, ht, hts]; rfl, List.forall_mem_cons.mpr ⟨hfirst, hrest⟩⟩

theorem exists_printFields_eq_ok {layout : Layout} (hlayout : layout.Visible) :
    (fields : List (Text × Json)) → haveWritable fields = true → ∀ level,
      ∃ ts, printFields layout level fields = .ok ts ∧ ∀ field ∈ ts, field.2.Visible
  | [] => fun _ _ => ⟨[], by rw [printFields], by simp⟩
  | (key, v) :: rest => by
      rw [haveWritable, Bool.and_eq_true]
      intro h level
      obtain ⟨t, ht, hfirst⟩ := exists_printAt_eq_ok hlayout v h.1 level
      obtain ⟨ts, hts, hrest⟩ := exists_printFields_eq_ok hlayout rest h.2 level
      have hkey := visible_stringLiteral layout.asciiOnly key
      exact ⟨_, by rw [printFields, ht, hts]; rfl,
        List.forall_mem_cons.mpr ⟨(hkey.append hlayout.colon).append hfirst, hrest⟩⟩

end

/-! ### How wide a printed value is -/

/-- The width of items of these widths on one line, with brackets around them and a comma and a
space between neighbours. -/
def enclosedWidth (widths : List Nat) : Nat := widths.sum + 2 * max 1 widths.length

mutual

/-- How many code points a value has on one line. -/
def width : Json → Nat
  | null => 4
  | bool b => if b then 4 else 5
  | int n => (Decimal.ofInt n).length
  | float x => (floatLiteral x).length
  | string t => (stringLiteral true t).length
  | array items => enclosedWidth (itemWidths items)
  | object fields => enclosedWidth (fieldWidths fields)

/-- How many code points each item has. -/
def itemWidths : List Json → List Nat
  | [] => []
  | v :: rest => v.width :: itemWidths rest

/-- How many code points each field has, its key included. -/
def fieldWidths : List (Text × Json) → List Nat
  | [] => []
  | (key, v) :: rest => ((stringLiteral true key).length + 2 + v.width) :: fieldWidths rest

end

theorem length_enclose (level : Nat) {opening closing : Text} (hopening : opening.length = 1)
    (hclosing : closing.length = 1) (items : List Text) :
    (enclose .spaced level opening closing items).length
      = enclosedWidth (items.map List.length) := by
  have hjoin : ∀ (t : Text) (ts : List Text), (Text.join Layout.spaced.comma (t :: ts)).length
      = ((t :: ts).map List.length).sum + 2 * ts.length := by
    intro t ts
    induction ts generalizing t with
    | nil => simp [Text.join]
    | cons u ts ih =>
        have hcomma : Layout.spaced.comma.length = 2 := rfl
        simp only [Text.join, List.length_append, ih u, hcomma, List.map_cons, List.sum_cons,
          List.length_cons]
        omega
  cases items with
  | nil => simp [enclose, enclosedWidth, hopening, hclosing]
  | cons t ts =>
      have hnone : Layout.spaced.indent = none := rfl
      simp only [enclose, List.isEmpty_cons, hnone, if_neg Bool.false_ne_true, List.length_append,
        hjoin t ts, hopening, hclosing, enclosedWidth, List.length_map, List.length_cons]
      omega

theorem enclosedWidth_perm {ws ws' : List Nat} (h : ws.Perm ws') :
    enclosedWidth ws = enclosedWidth ws' := by
  rw [enclosedWidth, enclosedWidth, h.sum_nat, h.length_eq]

mutual

/-- The order of the fields is no matter here, so the width is known without sorting them. -/
theorem length_of_printAt : (v : Json) → ∀ level t, v.printAt .spaced level = .ok t →
    t.length = v.width
  | null => by
      intro level t h
      rw [printAt] at h
      rw [← Except.ok.inj h]
      rfl
  | bool b => by
      intro level t h
      rw [printAt] at h
      rw [← Except.ok.inj h]
      cases b <;> rfl
  | int n => by
      intro level t h
      rw [printAt, Decimal.write] at h
      split at h
      · rw [← Except.ok.inj h, width]
      · exact absurd h (by simp)
  | float x => by
      intro level t h
      rw [printAt] at h
      rw [← Except.ok.inj h, width]
  | string s => by
      intro level t h
      rw [printAt] at h
      rw [← Except.ok.inj h, width]
      rfl
  | array items => by
      intro level t h
      rw [printAt] at h
      obtain ⟨ts, hts, h⟩ := Outcome.bind_eq_ok.mp h
      rw [← Outcome.pure_eq_ok.mp h, length_enclose level rfl rfl, width,
        map_length_of_printItems items _ ts hts]
  | object fields => by
      intro level t h
      rw [printAt] at h
      obtain ⟨ts, hts, h⟩ := Outcome.bind_eq_ok.mp h
      rw [← Outcome.pure_eq_ok.mp h, length_enclose level rfl rfl, width,
        ← map_length_of_printFields fields _ ts hts, List.map_map]
      exact enclosedWidth_perm ((List.mergeSort_perm ts _).map _)

theorem map_length_of_printItems : (items : List Json) → ∀ level ts,
    printItems .spaced level items = .ok ts → ts.map List.length = itemWidths items
  | [] => by
      intro level ts h
      rw [printItems] at h
      rw [← Except.ok.inj h, itemWidths, List.map_nil]
  | v :: rest => by
      intro level ts h
      rw [printItems] at h
      obtain ⟨t, ht, h⟩ := Outcome.bind_eq_ok.mp h
      obtain ⟨rest', hrest, h⟩ := Outcome.bind_eq_ok.mp h
      rw [← Outcome.pure_eq_ok.mp h, List.map_cons, length_of_printAt v _ t ht,
        map_length_of_printItems rest _ rest' hrest, itemWidths]

theorem map_length_of_printFields : (fields : List (Text × Json)) → ∀ level ts,
    printFields .spaced level fields = .ok ts →
      ts.map (List.length ∘ Prod.snd) = fieldWidths fields
  | [] => by
      intro level ts h
      rw [printFields] at h
      rw [← Except.ok.inj h, fieldWidths, List.map_nil]
  | (key, v) :: rest => by
      intro level ts h
      rw [printFields] at h
      obtain ⟨t, ht, h⟩ := Outcome.bind_eq_ok.mp h
      obtain ⟨rest', hrest, h⟩ := Outcome.bind_eq_ok.mp h
      have hcolon : Layout.spaced.colon.length = 2 := rfl
      rw [← Outcome.pure_eq_ok.mp h, List.map_cons, map_length_of_printFields rest _ rest' hrest,
        fieldWidths, Function.comp_apply, List.length_append, List.length_append,
        length_of_printAt v _ t ht, hcolon]
      rfl

end

end Json

end PatchReview
