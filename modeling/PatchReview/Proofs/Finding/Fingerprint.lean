/-
What a fingerprint looks like.

A digest is five words of eight hexadecimal digits, and a hexadecimal digit is one of
sixteen characters, in small letters.
-/
import PatchReview.Finding.Fingerprint

namespace PatchReview

namespace Fingerprint

/-- The sixteen digits. -/
def alphabet : Text := "0123456789abcdef"

theorem ofHexDigit_mem_alphabet {n : Nat} (h : n < 16) : CodePoint.ofHexDigit n ∈ alphabet := by
  have hall : ∀ n < 16, CodePoint.ofHexDigit n ∈ alphabet := by decide
  exact hall n h

theorem mem_alphabet_of_mem_hexDigits {n width : Nat} :
    ∀ c ∈ Text.hexDigits n width, c ∈ alphabet := by
  induction width generalizing n with
  | zero => simp [Text.hexDigits]
  | succ width ih =>
      intro c hc
      rw [Text.hexDigits, List.mem_append, List.mem_singleton] at hc
      rcases hc with hc | rfl
      · exact ih c hc
      · exact ofHexDigit_mem_alphabet (Nat.mod_lt n (by simp))

/-- **A fingerprint has forty small hexadecimal digits.** -/
theorem ofText_digits (t : Text) : (ofText t).length = 40 ∧ ∀ c ∈ ofText t, c ∈ alphabet := by
  refine ⟨?_, fun c hc => ?_⟩
  · simp [ofText, Sha1.hex, Sha1.State.hex]
  · rw [ofText, Sha1.hex, Sha1.State.hex, List.mem_flatMap] at hc
    obtain ⟨w, -, hc⟩ := hc
    exact mem_alphabet_of_mem_hexDigits c hc

/-- Forty small hexadecimal digits can stand as a fingerprint and are written small already. -/
theorem isFingerprint_of_digits {t : Text} (hlength : t.length = 40)
    (hdigits : ∀ c ∈ t, c ∈ alphabet) : isFingerprint t = true ∧ t.asciiLower = t := by
  have hall : ∀ c ∈ alphabet, isHexDigit c = true ∧ c.asciiLower = c := by decide
  refine ⟨?_, ?_⟩
  · have htake : t.take 40 = t := List.take_of_length_le (Nat.le_of_eq hlength)
    have hdrop : t.drop 40 = [] := List.drop_eq_nil_of_le (Nat.le_of_eq hlength)
    have hhex : t.all isHexDigit = true :=
      List.all_eq_true.mpr fun c hc => (hall c (hdigits c hc)).1
    simp [isFingerprint, htake, hdrop, hlength, hhex]
  · rw [Text.asciiLower]
    exact (List.map_congr_left fun c hc => (hall c (hdigits c hc)).2).trans (List.map_id' t)

end Fingerprint

end PatchReview
