/-
Texts by their bytes.

The first byte of a code point says how many bytes it has, and the bytes together have
its number, put up by an amount that only their count decides.  So where the bytes of
one text end is no matter of choice, and two texts with the same bytes are the same.
Lone surrogates need no case of their own: they have three bytes like their neighbours,
and a pair of them has six where the code point that it could stand for has four.  In the
other direction two readers differ in nothing but ill-formed bytes.
-/
import Mathlib.Logic.Function.Basic
import PatchReview.Proofs.Outcome
import PatchReview.Text.Utf8

namespace PatchReview

namespace Utf8

/-- How many bytes a code point has, by its first byte. -/
def sizeBy (first : UInt8) : Nat :=
  if first < 0x80 then 1 else if first < 0xE0 then 2 else if first < 0xF0 then 3 else 4

/-- The number that bytes have together, sixty-four times for each place. -/
def weight (bytes : List UInt8) : Nat := bytes.foldl (fun n b => n * 64 + b.toNat) 0

/-- By how much the bytes of a code point weigh more than its number. -/
def surplus (size : Nat) : Nat :=
  match size with
  | 2 => 0x3080
  | 3 => 0xE2080
  | 4 => 0x3C82080
  | _ => 0

theorem sizeBy_ofNat {n : Nat} (h : n < 256) :
    sizeBy (UInt8.ofNat n)
      = if n < 0x80 then 1 else if n < 0xE0 then 2 else if n < 0xF0 then 3 else 4 := by
  simp [sizeBy, UInt8.lt_iff_toNat_lt, Nat.mod_eq_of_lt h]

/-- **The bytes of a code point tell their count and its number.** -/
theorem encodeOne_spec (c : CodePoint) :
    ∃ first rest, encodeOne c = first :: rest ∧ sizeBy first = (encodeOne c).length ∧
      weight (encodeOne c) = c.toNat + surplus (encodeOne c).length := by
  have hlt := c.isLt
  unfold encodeOne
  by_cases hone : c.toNat < 0x80
  · simp only [if_pos hone]
    refine ⟨_, _, rfl, ?_, ?_⟩
    · rw [sizeBy_ofNat (by omega), if_pos (by omega)]
      rfl
    · simp [weight, surplus]
      omega
  · by_cases htwo : c.toNat < 0x800
    · simp only [if_neg hone, if_pos htwo]
      refine ⟨_, _, rfl, ?_, ?_⟩
      · rw [sizeBy_ofNat (by omega), if_neg (by omega), if_pos (by omega)]
        rfl
      · simp [weight, surplus]
        omega
    · by_cases hthree : c.toNat < 0x10000
      · simp only [if_neg hone, if_neg htwo, if_pos hthree]
        refine ⟨_, _, rfl, ?_, ?_⟩
        · rw [sizeBy_ofNat (by omega), if_neg (by omega), if_neg (by omega), if_pos (by omega)]
          rfl
        · simp [weight, surplus]
          omega
      · simp only [if_neg hone, if_neg htwo, if_neg hthree]
        refine ⟨_, _, rfl, ?_, ?_⟩
        · rw [sizeBy_ofNat (by omega), if_neg (by omega), if_neg (by omega), if_neg (by omega)]
          rfl
        · simp [weight, surplus]
          omega

/-- No code point's bytes begin with those of another one. -/
theorem encodeOne_append_inj {c d : CodePoint} {s t : List UInt8}
    (h : encodeOne c ++ s = encodeOne d ++ t) : c = d ∧ s = t := by
  obtain ⟨first, rest, hc, hsize, hweight⟩ := encodeOne_spec c
  obtain ⟨first', rest', hd, hsize', hweight'⟩ := encodeOne_spec d
  have hfirst : first = first' := by
    rw [hc, hd] at h
    exact (List.cons.inj h).1
  -- With the same first byte both have the same number of bytes, so they end at the same place.
  have hlength : (encodeOne c).length = (encodeOne d).length := by
    rw [← hsize, ← hsize', hfirst]
  obtain ⟨hbytes, hrest⟩ := List.append_inj h hlength
  rw [hbytes, hweight'] at hweight
  exact ⟨CodePoint.ext (by omega), hrest⟩

/-- **Texts with the same bytes are the same.** -/
theorem encode_injective : Function.Injective encode := by
  intro s t h
  induction s generalizing t with
  | nil =>
      cases t with
      | nil => rfl
      | cons d t =>
          obtain ⟨first, rest, hd, -⟩ := encodeOne_spec d
          rw [encode, encode, List.flatMap_cons, hd] at h
          exact absurd h (by simp)
  | cons c s ih =>
      cases t with
      | nil =>
          obtain ⟨first, rest, hc, -⟩ := encodeOne_spec c
          rw [encode, encode, List.flatMap_cons, hc] at h
          exact absurd h (by simp)
      | cons d t =>
          rw [encode, encode, List.flatMap_cons, List.flatMap_cons] at h
          obtain ⟨rfl, hrest⟩ := encodeOne_append_inj h
          rw [ih hrest]

/-! ### Reading -/

theorem decodeLossy_of_decodeFrom {position : Nat} {bytes : List UInt8} {t : Text}
    (h : decodeFrom position bytes = .ok t) : decodeLossy bytes = t := by
  induction position, bytes using decodeFrom.induct generalizing t with
  | case1 position =>
      rw [decodeFrom] at h
      rw [decodeLossy]
      exact Except.ok.inj h
  | case2 position b rest c n hpiece ih =>
      rw [decodeFrom, hpiece] at h
      obtain ⟨u, hu, hcons⟩ := Outcome.bind_eq_ok.mp h
      rw [decodeLossy, hpiece, ← Outcome.pure_eq_ok.mp hcons]
      simp only [ih hu]
  | case3 position b rest flaw n hpiece =>
      rw [decodeFrom, hpiece] at h
      exact absurd h (by simp)

/-- **Well-formed bytes are read in the same way, leniently or not.** -/
theorem decodeLossy_of_decode {bytes : List UInt8} {t : Text} (h : decode bytes = .ok t) :
    decodeLossy bytes = t :=
  decodeLossy_of_decodeFrom h

end Utf8

end PatchReview
