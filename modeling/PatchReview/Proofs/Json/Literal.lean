/-
Dense JSON strings are read back.

In a dense string nothing is escaped but the quote, the backslash and the control
characters, and the reader undoes exactly these escapes.  So reading a dense string gives
its text back and stops behind it, whatever follows: no text can hold what would end its
own string.  Lone surrogates stand as they are, and as an escape for a control character
names no surrogate, the reader never joins two of them.
-/
import PatchReview.Json.Printer
import PatchReview.Json.Reader

namespace PatchReview

namespace Json

theorem hexValue?_ofHexDigit : ∀ d < 16, (CodePoint.ofHexDigit d).hexValue? = some d := by
  decide

/-- The four digits of a number are read as the number. -/
theorem hex4?_hexDigits {n : Nat} (h : n < 65536) : ∃ a b c d, Text.hexDigits n 4 = [a, b, c, d] ∧
    Reader.hex4? a b c d = some n := by
  refine ⟨_, _, _, _, rfl, ?_⟩
  simp only [Reader.hex4?, hexValue?_ofHexDigit _ (Nat.mod_lt _ (by decide : 0 < 16)),
    Option.bind_eq_bind, Option.bind_some, Option.pure_def]
  congr 1
  omega

/-- A control character is read from its escape. -/
theorem pushUnit_of_lt {c : CodePoint} (h : c.toNat < 32) (read : Text) :
    Reader.pushUnit c.toNat read = c :: read := by
  have hself : CodePoint.ofNat? c.toNat = some c := dif_pos c.isLt
  cases read with
  | nil => simp [Reader.pushUnit, hself]
  | cons high rest =>
      have hlow : ¬0xDC00 ≤ c.toNat := by omega
      simp [Reader.pushUnit, hself, hlow]

/-! ### One code point -/

/-- The code points that stand behind a backslash in a dense string, each with what stands for it
there. -/
def shortEscapes : List (CodePoint × CodePoint) :=
  [('"', '"'), ('\\', '\\'), (Char.ofNat 8, 'b'), (Char.ofNat 12, 'f'), ('\n', 'n'), ('\r', 'r'),
    ('\t', 't')]

theorem stringOne_of_mem_shortEscapes : ∀ escape ∈ shortEscapes,
    stringOne false escape.1 = [CodePoint.ofChar '\\', escape.2] ∧ escape.2 ≠ 'u' ∧
      Reader.escaped? escape.2 = some escape.1 := by
  decide

/-- Of all others only the control characters are escaped. -/
theorem stringOne_of_not_short {c : CodePoint} (h : ∀ escape ∈ shortEscapes, escape.1 ≠ c) :
    stringOne false c = if c.toNat < 32 then unitEscape c.toNat else [c] := by
  have hnumber : ∀ escape ∈ shortEscapes, c.toNat ≠ escape.1.toNat :=
    fun escape hescape heq => h escape hescape (CodePoint.ext heq.symm)
  simp only [shortEscapes, List.forall_mem_cons] at h hnumber
  obtain ⟨hquote, hslash, -⟩ := h
  obtain ⟨hbackspace, hform, hfeed, hreturn, htab⟩ :
      c.toNat ≠ 8 ∧ c.toNat ≠ 12 ∧ c.toNat ≠ 10 ∧ c.toNat ≠ 13 ∧ c.toNat ≠ 9 := by
    obtain ⟨-, -, hbackspace, hform, hfeed, hreturn, htab, -⟩ := hnumber
    exact ⟨hbackspace, hform, hfeed, hreturn, htab⟩
  rw [stringOne, if_neg hquote.symm, if_neg hslash.symm, if_neg hbackspace, if_neg hform,
    if_neg hfeed, if_neg hreturn, if_neg htab,
    if_pos (.inr Bool.false_ne_true : c.toNat < 127 ∨ ¬false = true)]

/-- **What stands for a code point in a dense string is read as that code point.** -/
theorem stringBody_stringOne (opening : Nat) (read : Text) (c after : CodePoint) (rest : Text) :
    Reader.stringBody opening read (stringOne false c ++ after :: rest)
      = Reader.stringBody opening (c :: read) (after :: rest) := by
  by_cases hshort : ∃ escape ∈ shortEscapes, escape.1 = c
  · obtain ⟨escape, hescape, rfl⟩ := hshort
    obtain ⟨hone, hunit, hread⟩ := stringOne_of_mem_shortEscapes escape hescape
    rw [hone, List.cons_append, List.singleton_append, Reader.stringBody.eq_def]
    simp only [if_neg hunit, hread, if_true]
    exact if_neg (by decide)
  · have hnot : ∀ escape ∈ shortEscapes, escape.1 ≠ c :=
      fun escape hescape hc => hshort ⟨escape, hescape, hc⟩
    have hquote : c ≠ '"' := (hnot ('"', '"') (by decide)).symm
    have hslash : c ≠ '\\' := (hnot ('\\', '\\') (by decide)).symm
    rw [stringOne_of_not_short hnot]
    by_cases hcontrol : c.toNat < 32
    · obtain ⟨a, b, d, e, hdigits, hnumber⟩ := hex4?_hexDigits (show c.toNat < 65536 by omega)
      have hunit : unitEscape c.toNat ++ after :: rest
          = CodePoint.ofChar '\\' :: CodePoint.ofChar 'u' :: a :: b :: d :: e :: after :: rest := by
        rw [unitEscape, hdigits]
        rfl
      rw [if_pos hcontrol, hunit, Reader.stringBody, if_neg (by decide), if_pos rfl]
      simp only [if_true, hnumber, pushUnit_of_lt hcontrol]
    · rw [if_neg hcontrol, List.singleton_append, Reader.stringBody.eq_def]
      simp only [if_neg hquote, if_neg hslash, if_neg hcontrol]

/-! ### A whole string -/

theorem stringBody_flatMap (opening : Nat) (read t rest : Text) :
    Reader.stringBody opening read (t.flatMap (stringOne false) ++ CodePoint.ofChar '"' :: rest)
      = .ok (read.reverse ++ t, rest) := by
  induction t generalizing read with
  | nil =>
      rw [List.flatMap_nil, List.nil_append, List.append_nil, Reader.stringBody.eq_def]
      exact if_pos rfl
  | cons c t ih =>
      -- The step needs to see that something follows, and at least the closing quote does.
      obtain ⟨after, behind, hbehind⟩ : ∃ after behind,
          t.flatMap (stringOne false) ++ CodePoint.ofChar '"' :: rest = after :: behind := by
        cases h : t.flatMap (stringOne false) ++ CodePoint.ofChar '"' :: rest with
        | nil => exact absurd h (by simp)
        | cons after behind => exact ⟨after, behind, rfl⟩
      rw [List.flatMap_cons, List.append_assoc, hbehind, stringBody_stringOne, ← hbehind, ih,
        List.reverse_cons, List.append_assoc, List.singleton_append]

theorem stringLiteral_eq (t : Text) :
    stringLiteral false t
      = CodePoint.ofChar '"' :: (t.flatMap (stringOne false) ++ [CodePoint.ofChar '"']) := rfl

/-- **Where a dense string ends is no matter of choice**, and it tells its text. -/
theorem stringLiteral_append_inj {s t a b : Text}
    (h : stringLiteral false s ++ a = stringLiteral false t ++ b) : s = t ∧ a = b := by
  simp only [stringLiteral_eq, List.cons_append, List.append_assoc, List.nil_append] at h
  have hread := congrArg (Reader.stringBody 0 []) (List.cons.inj h).2
  rw [stringBody_flatMap, stringBody_flatMap] at hread
  exact Prod.mk.inj (Except.ok.inj hread)

end Json

end PatchReview
