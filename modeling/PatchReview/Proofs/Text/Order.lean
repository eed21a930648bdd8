/-
The order of texts.

Texts are compared by the numbers of their code points: the first difference decides, and a
text stands before its extensions.  That is the lexicographic order of the lists of numbers.
-/
import Mathlib.Data.List.Lex
import PatchReview.Proofs.Sorting
import PatchReview.Text.Order

namespace PatchReview

namespace Text

variable {s t : Text} {texts : List Text}

/-- The numbers of the code points of a text. -/
def codes (t : Text) : List Nat := t.map CodePoint.toNat

theorem codes_inj : codes s = codes t ↔ s = t :=
  (List.map_injective_iff.mpr fun _ _ h => CodePoint.ext h).eq_iff

theorem precedes_iff : precedes s t = true ↔ codes s < codes t := by
  fun_induction precedes s t with
  | case1 => simp [codes]
  | case2 => simp [codes]
  | case3 => simp [codes]
  | case4 s b t ih => simp [codes, ih]
  | case5 a s b t hne =>
      have hne : a.toNat ≠ b.toNat := fun h => hne (CodePoint.ext h)
      simp [codes, List.cons_lt_cons_iff, hne]

/-- **Texts are ordered as the lists of their numbers.** -/
theorem notAfter_iff : notAfter s t = true ↔ codes s ≤ codes t := by
  rw [notAfter, Bool.not_eq_true', ← not_lt, ← precedes_iff, Bool.not_eq_true]

theorem notAfter_eq : notAfter = fun s t => decide (codes s ≤ codes t) := by
  funext s t
  rw [Bool.eq_iff_iff, notAfter_iff, decide_eq_true_eq]

theorem mem_sortedOnce : t ∈ sortedOnce texts ↔ t ∈ texts := by
  rw [sortedOnce, sorted, List.mem_mergeSort, List.mem_eraseDups]

/-- Texts that are sorted, each once, rise from one to the next. -/
theorem pairwise_sortedOnce (texts : List Text) :
    (sortedOnce texts).Pairwise fun s t => codes s < codes t := by
  have hsorted : StablySorted codes texts.eraseDups (sortedOnce texts) := by
    rw [sortedOnce, sorted, notAfter_eq]
    exact stablySorted_mergeSort codes _
  have hdistinct : (sortedOnce texts).Nodup := hsorted.perm.nodup_iff.mpr (nodup_eraseDups texts)
  refine (hsorted.ordered.and hdistinct).imp fun h => ?_
  exact lt_of_le_of_ne h.1 fun heq => h.2 (codes_inj.mp heq)

end Text

end PatchReview
