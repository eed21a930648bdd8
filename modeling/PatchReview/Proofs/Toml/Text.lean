/-
The texts of values.

A value is printed as a text: a string as itself, a whole number as its numeral, a switch as
`True` or `False`, a float as a binary64 number.  The texts of dates and of containers begin
with a digit and with a bracket, and no more than that is said of them here.  It is enough to
tell them from words: apart from strings, only switches, infinities and what is no number at
all are written in letters alone.
-/
import PatchReview.Proofs.Number.Decimal
import PatchReview.Proofs.Outcome
import PatchReview.Toml.Basic

namespace PatchReview

/-! ### The texts of values -/

namespace Toml

/-- A text that a value may have when it is printed.  Of the texts of dates and containers only the
beginning is said, which tells them from words. -/
inductive Shows : Toml → Text → Prop
  | string (t : Text) : Shows (.string t) t
  | integer {n : Int} {t : Text} (h : Decimal.write n = .ok t) : Shows (.integer n) t
  | float (written : Text) (x : Binary64) : Shows (.float written) x.write
  | boolean (b : Bool) : Shows (.boolean b) (if b then "True" else "False")
  | dateTime (written : Text) {c : CodePoint} (h : c.isAsciiDigit = true) (rest : Text) :
      Shows (.dateTime written) (c :: rest)
  | array {items : List Toml} (h : checkItems items = .ok ()) (rest : Text) :
      Shows (.array items) (CodePoint.ofChar '[' :: rest)
  | table {fields : Fields} (h : checkFields fields = .ok ()) (rest : Text) :
      Shows (.table fields) (CodePoint.ofChar '\x7b' :: rest)

/-- A value has a text if all whole numbers in it can be written. -/
theorem exists_shows_iff {v : Toml} : (∃ t, v.Shows t) ↔ v.checkWritable = .ok () := by
  cases v with
  | string t => exact ⟨fun _ => rfl, fun _ => ⟨t, .string t⟩⟩
  | float written => exact ⟨fun _ => rfl, fun _ => ⟨_, .float written .notANumber⟩⟩
  | boolean b => exact ⟨fun _ => rfl, fun _ => ⟨_, .boolean b⟩⟩
  | dateTime written =>
      have hdigit : (CodePoint.ofChar '0').isAsciiDigit = true := by decide
      exact ⟨fun _ => rfl, fun _ => ⟨_, .dateTime written hdigit []⟩⟩
  | integer n =>
      rw [checkWritable]
      constructor
      · rintro ⟨t, ht⟩
        cases ht with
        | integer h => exact Outcome.bind_eq_ok.mpr ⟨t, h, rfl⟩
      · intro h
        obtain ⟨t, ht, -⟩ := Outcome.bind_eq_ok.mp h
        exact ⟨t, .integer ht⟩
  | array items =>
      rw [checkWritable]
      constructor
      · rintro ⟨t, ht⟩
        cases ht with
        | array h => exact h
      · exact fun h => ⟨_, .array h []⟩
  | table fields =>
      rw [checkWritable]
      constructor
      · rintro ⟨t, ht⟩
        cases ht with
        | table h => exact h
      · exact fun h => ⟨_, .table h []⟩

end Toml

/-! ### Texts that are no words -/

/-- Something other than a letter of ASCII stands in a text. -/
def Text.HasMark (t : Text) : Prop := ∃ c ∈ t, c.isAsciiLetter = false

theorem CodePoint.isAsciiLetter_of_asciiLower {c : CodePoint}
    (h : c.asciiLower.isAsciiLetter = true) : c.isAsciiLetter = true := by
  rw [asciiLower] at h
  split at h
  · rename_i hcapital
    simp [isAsciiLetter, hcapital]
  · exact h

theorem CodePoint.isAsciiLetter_of_isAsciiDigit {c : CodePoint} (h : c.isAsciiDigit = true) :
    c.isAsciiLetter = false := by
  simp only [isAsciiDigit, Bool.and_eq_true, decide_eq_true_eq] at h
  rw [Bool.eq_false_iff, ne_eq, isAsciiLetter]
  simp only [Bool.or_eq_true, Bool.and_eq_true, decide_eq_true_eq]
  omega

namespace Text.HasMark

variable {s t : Text}

theorem append_left (h : s.HasMark) : (s ++ t).HasMark :=
  h.imp fun _ hc => ⟨List.mem_append_left _ hc.1, hc.2⟩

theorem append_right (h : t.HasMark) : (s ++ t).HasMark :=
  h.imp fun _ hc => ⟨List.mem_append_right _ hc.1, hc.2⟩

end Text.HasMark

/-- Numerals are written in digits. -/
theorem Decimal.hasMark_ofInt (n : Int) : (ofInt n).HasMark := by
  have hnat : ∀ n, (ofNat n).HasMark := by
    intro n
    obtain ⟨c, hc⟩ := List.exists_mem_of_ne_nil _ (ofNat_ne_nil n)
    obtain ⟨hlow, hhigh⟩ := ascii_of_mem_ofNat c hc
    refine ⟨c, hc, CodePoint.isAsciiLetter_of_isAsciiDigit ?_⟩
    simp [CodePoint.isAsciiDigit, hlow, hhigh]
  cases n with
  | ofNat n => exact hnat n
  | negSucc n => exact ⟨CodePoint.ofChar '-', by simp [ofInt], by decide⟩

/-- A finite number has a point or an exponent with a sign. -/
theorem Binary64.hasMark_write_finite (negative : Bool) (significand : Nat) (exponent : Int) :
    (write (.finite negative significand exponent)).HasMark := by
  have hpoint : ∀ (digits : Text) (point : Int), (positional digits point).HasMark := by
    intro digits point
    have hdot : (Text.ofString ".").HasMark := ⟨CodePoint.ofChar '.', by decide, by decide⟩
    have hstart : (Text.ofString "0.").HasMark := ⟨CodePoint.ofChar '.', by decide, by decide⟩
    have hend : (Text.ofString ".0").HasMark := ⟨CodePoint.ofChar '.', by decide, by decide⟩
    unfold positional
    split
    · exact hstart.append_left.append_left
    · dsimp only
      split
      · exact hend.append_right
      · exact hdot.append_right.append_left
  have hsign : ∀ (digits : Text) (point : Int), (scientific digits point).HasMark := by
    intro digits point
    have hminus : (Text.ofString "e-").HasMark := ⟨CodePoint.ofChar '-', by decide, by decide⟩
    have hplus : (Text.ofString "e+").HasMark := ⟨CodePoint.ofChar '+', by decide, by decide⟩
    unfold scientific
    refine Text.HasMark.append_left (Text.HasMark.append_right ?_)
    split
    · exact hminus
    · exact hplus
  have hsize : (if significand == 0 then Text.ofString "0.0"
      else writePositive significand exponent).HasMark := by
    split
    · exact ⟨CodePoint.ofChar '.', by decide, by decide⟩
    · rw [writePositive]
      split
      · exact hpoint _ _
      · exact hsign _ _
  rw [write]
  split
  · exact hsize.append_right
  · exact hsize

namespace Toml

variable {v : Toml} {t : Text}

/-- **Few values are written in letters alone**: strings, and those that have one of four texts. -/
theorem Shows.cases_letters (h : v.Shows t) :
    v = .string t ∨ t.HasMark ∨ t ∈ (["True", "False", "inf", "nan"] : List Text) := by
  cases h with
  | string => exact Or.inl rfl
  | integer h =>
      rw [Decimal.write] at h
      split at h
      · rw [← Except.ok.inj h]
        exact Or.inr (Or.inl (Decimal.hasMark_ofInt _))
      · exact absurd h (by simp)
  | float written x =>
      cases x with
      | finite negative significand exponent =>
          exact Or.inr (Or.inl (Binary64.hasMark_write_finite negative significand exponent))
      | infinite negative =>
          cases negative with
          | false => exact Or.inr (Or.inr (by decide))
          | true => exact Or.inr (Or.inl ⟨CodePoint.ofChar '-', by decide, by decide⟩)
      | notANumber => exact Or.inr (Or.inr (by decide))
  | boolean b =>
      cases b with
      | false | true => exact Or.inr (Or.inr (by decide))
  | dateTime written h rest =>
      have hmark := CodePoint.isAsciiLetter_of_isAsciiDigit h
      exact Or.inr (Or.inl ⟨_, List.mem_cons_self, hmark⟩)
  | array h rest | table h rest => exact Or.inr (Or.inl ⟨_, List.mem_cons_self, by decide⟩)

/-- The word that is taken from a value is that of a string, and there is no error if the value has
a text. -/
theorem word?_cases (v : Toml) :
    (∃ word?, v.word? = .ok word? ∧ ∀ t, word? = some t ↔ v = .string t) ∨
      (∃ e, v.word? = .error e) ∧ ¬∃ t, v.Shows t := by
  rw [exists_shows_iff]
  cases v with
  | string t => exact Or.inl ⟨some t, rfl, by simp⟩
  | float | boolean | dateTime => exact Or.inl ⟨none, rfl, by simp⟩
  | integer | array | table =>
      rw [word?]
      · cases checkWritable _ with
        | ok => exact Or.inl ⟨none, rfl, by simp⟩
        | error e => exact Or.inr ⟨⟨e, rfl⟩, by simp⟩
      · simp

end Toml

end PatchReview
