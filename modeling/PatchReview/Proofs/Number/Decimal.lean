/-
What a numeral looks like.

The numeral of a natural number is written in the ten digits of ASCII, and there is at
least one of them, so a numeral is never empty and never holds anything but digits.  No
other number is written as nothing either.  One limit holds for reading and for writing,
so a number that has been read can be written again.
-/
import Mathlib.Data.List.Induction
import Mathlib.Data.Nat.Digits.Defs
import PatchReview.Number.Decimal
import PatchReview.Number.Shortest

namespace PatchReview

namespace Decimal

/-- The ten digits of ASCII are the first that are tried. -/
theorem isDigit_of_isAsciiDigit {c : CodePoint} (hlow : 48 ≤ c.toNat) (hhigh : c.toNat ≤ 57) :
    c.isDigit = true := by
  have hvalue : c.digitValue? = some (c.toNat - 48) := by
    rw [CodePoint.digitValue?, CodePoint.zeros, CodePoint.valueAmong,
      if_neg (Nat.not_lt.mpr hlow), if_pos (Nat.lt_of_le_of_lt hhigh (by decide))]
  rw [CodePoint.isDigit, hvalue]
  rfl

theorem ascii_of_mem_ofNat {n : Nat} : ∀ c ∈ ofNat n, 48 ≤ c.toNat ∧ c.toNat ≤ 57 := by
  intro c hc
  obtain ⟨digit, hdigit, rfl⟩ := List.mem_map.mp hc
  have hascii := Nat.isDigit_of_mem_toDigits (by decide) (by decide) hdigit
  have hbounds : 48 ≤ digit.toNat ∧ digit.toNat ≤ 57 := by
    simpa [Char.isDigit, UInt32.le_iff_toNat_le] using hascii
  exact hbounds

theorem isDigit_of_mem_ofNat {n : Nat} : ∀ c ∈ ofNat n, c.isDigit = true := by
  intro c hc
  obtain ⟨hlow, hhigh⟩ := ascii_of_mem_ofNat c hc
  exact isDigit_of_isAsciiDigit hlow hhigh

theorem ofNat_ne_nil (n : Nat) : ofNat n ≠ [] := by
  rw [ofNat, ne_eq, List.map_eq_nil_iff]
  exact Nat.toDigits_ne_nil

theorem ofInt_ne_nil (n : Int) : ofInt n ≠ [] := by
  cases n with
  | ofNat n => exact ofNat_ne_nil n
  | negSucc n => exact List.cons_ne_nil _ _

/-! ### Numerals that have been read -/

/-- Reading digits from the left gives their place value. -/
theorem valueOf_eq_ofDigits (digits : List Nat) :
    valueOf digits = Nat.ofDigits 10 digits.reverse := by
  induction digits using List.reverseRecOn with
  | nil => rfl
  | append_singleton digits d ih =>
      rw [List.reverse_append, List.reverse_singleton, List.singleton_append, Nat.ofDigits_cons,
        ← ih, valueOf, List.foldl_append]
      simp only [List.foldl_cons, List.foldl_nil, valueOf]
      omega

/-- Digits denote a number that has no more of them. -/
theorem valueOf_lt {digits : List Nat} {limit : Nat} (h : ∀ d ∈ digits, d < 10)
    (hlength : digits.length ≤ limit) : valueOf digits < Nat.pow 10 limit := by
  have hlt : Nat.ofDigits 10 digits.reverse < 10 ^ digits.reverse.length :=
    Nat.ofDigits_lt_base_pow_length (by decide) fun d hd => h d (List.mem_reverse.mp hd)
  rw [List.length_reverse] at hlt
  rw [valueOf_eq_ofDigits]
  exact Nat.lt_of_lt_of_le hlt (Nat.pow_le_pow_right (by decide) hlength)

/-- A numeral that can be read can be written. -/
theorem isWritable_of_read {digits : Text} {n : Nat} (h : read digits = .ok n) :
    isWritable n = true := by
  rw [read] at h
  split at h
  · rename_i hshort
    rw [← Except.ok.inj h, isWritable, decide_eq_true_eq]
    have hdigits : ∀ d ∈ digits.filterMap CodePoint.digitValue?, d < 10 := by
      intro d hd
      obtain ⟨c, -, hc⟩ := List.mem_filterMap.mp hd
      exact CodePoint.digitValue?_lt hc
    exact valueOf_lt hdigits (Nat.le_trans (List.length_filterMap_le _ _) hshort)
  · exact absurd h (by simp)

theorem isWritable_of_ofText? {t : Text} {n : Int} (h : ofText? t = some n) :
    isWritable n.natAbs = true := by
  unfold ofText? at h
  dsimp only at h
  split at h
  · exact absurd h (by simp)
  · split at h
    · exact absurd h (by simp)
    · rename_i hread
      have hwritable := isWritable_of_read hread
      rw [← Option.some.inj h]
      split
      · simpa using hwritable
      · simpa using hwritable

end Decimal

namespace Binary64

variable {digits : Text} (h : digits ≠ []) (point : Int)

include h

theorem positional_ne_nil : positional digits point ≠ [] := by
  unfold positional
  split
  · simp [h]
  · dsimp only
    split
    · simp [h]
    · have hpoint : Text.ofString "." ≠ [] := by decide
      simp [hpoint]

theorem scientific_ne_nil : scientific digits point ≠ [] := by
  have hfirst : digits.take 1 ≠ [] := by simp [h]
  simp [scientific, hfirst]

omit h

theorem write_ne_nil (x : Binary64) : x.write ≠ [] := by
  cases x with
  | finite negative significand exponent =>
      have hdigits := Decimal.ofNat_ne_nil (shortest significand exponent).digits
      have hpositive : writePositive significand exponent ≠ [] := by
        simp only [writePositive]
        split
        · exact positional_ne_nil hdigits _
        · exact scientific_ne_nil hdigits _
      have hsize : (if significand == 0 then Text.ofString "0.0"
          else writePositive significand exponent) ≠ [] := by
        split
        · decide
        · exact hpositive
      simp only [write]
      split
      · exact List.append_ne_nil_of_right_ne_nil _ hsize
      · exact hsize
  | infinite negative => cases negative <;> decide
  | notANumber => decide
end Binary64

end PatchReview
