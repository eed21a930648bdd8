/-
Paths with single slashes.

Writing a path with single slashes leaves nothing that would be rewritten: no backslash
is left, and no slash behind another.  So a path that has been written in this way once
stays as it is.  Two paths one behind the other are rewritten each for itself, unless a
separator at the end of the first one runs on into the second.
-/
import PatchReview.Boundary.Specifier

namespace PatchReview

namespace Text

open CodePoint (ofChar)

/-- A path that has single slashes as its separators. -/
structure Slashed (t : Text) : Prop where
  noBackslash : ofChar '\\' ∉ t
  single : ¬("//" : Text) <:+: t

theorem Slashed.of_suffix {s t : Text} (h : Slashed t) (hst : s <:+ t) : Slashed s where
  noBackslash hmem := h.noBackslash (hst.subset hmem)
  single hdouble := h.single (hdouble.trans hst.isInfix)

/-- A path that does not go on with a separator. -/
def Unseparated (t : Text) : Prop := ∀ c ∈ t.head?, c ≠ ofChar '/' ∧ c ≠ ofChar '\\'

instance (t : Text) : Decidable (Unseparated t) :=
  match t with
  | [] => isTrue (by simp [Unseparated])
  | c :: t => decidable_of_iff (c ≠ ofChar '/' ∧ c ≠ ofChar '\\') (by simp [Unseparated])

/-! ### One slash of each run -/

theorem head?_collapseSlashes (t : Text) : (collapseSlashes t).head? = t.head? := by
  induction t with
  | nil => rfl
  | cons c t ih =>
      rw [collapseSlashes]
      split
      · rename_i hrun
        rw [ih, hrun.2, hrun.1, List.head?_cons]
      · rfl

theorem doubled_isPrefix_cons {c : CodePoint} {t : Text} :
    ("//" : Text) <+: c :: t ↔ c = ofChar '/' ∧ t.head? = some (ofChar '/') := by
  have hmark : ("//" : Text) = [ofChar '/', ofChar '/'] := rfl
  cases t with
  | nil => simp [hmark]
  | cons d t => simp [hmark, eq_comm]

theorem single_collapseSlashes (t : Text) : ¬("//" : Text) <:+: collapseSlashes t := by
  induction t with
  | nil => decide
  | cons c t ih =>
      rw [collapseSlashes]
      split
      · exact ih
      · rename_i hrun
        rw [List.infix_cons_iff, doubled_isPrefix_cons, head?_collapseSlashes]
        exact not_or.mpr ⟨hrun, ih⟩

theorem collapseSlashes_eq_self {t : Text} (h : ¬("//" : Text) <:+: t) : collapseSlashes t = t := by
  induction t with
  | nil => rfl
  | cons c t ih =>
      rw [List.infix_cons_iff, doubled_isPrefix_cons, not_or] at h
      rw [collapseSlashes, if_neg h.1, ih h.2]

theorem collapseSlashes_append {s t : Text} (h : t.head? ≠ some (ofChar '/')) :
    collapseSlashes (s ++ t) = collapseSlashes s ++ collapseSlashes t := by
  induction s with
  | nil => rfl
  | cons c s ih =>
      have hrun : (c = ofChar '/' ∧ (s ++ t).head? = some (ofChar '/'))
          ↔ (c = ofChar '/' ∧ s.head? = some (ofChar '/')) := by
        cases s with
        | nil => simp [h]
        | cons d s => rfl
      rw [List.cons_append, collapseSlashes, collapseSlashes, ih]
      simp only [hrun]
      split
      · rfl
      · rfl

theorem collapseSlashes_subset (t : Text) : collapseSlashes t ⊆ t := by
  induction t with
  | nil => exact List.Subset.refl _
  | cons c t ih =>
      rw [collapseSlashes]
      split
      · exact List.subset_cons_of_subset c ih
      · exact List.cons_subset_cons c ih

/-! ### Single slashes -/

theorem slashOfBackslash_ne (c : CodePoint) : slashOfBackslash c ≠ ofChar '\\' := by
  rw [slashOfBackslash]
  split
  · decide
  · assumption

theorem slashed_spec (path : Text) : Slashed (slashed path) where
  noBackslash hmem := by
    obtain ⟨c, -, hc⟩ := List.mem_map.mp (collapseSlashes_subset _ hmem)
    exact slashOfBackslash_ne c hc
  single := single_collapseSlashes _

/-- A path with single slashes stays as it is. -/
theorem slashed_eq_self {path : Text} (h : Slashed path) : slashed path = path := by
  have hslashes : path.map slashOfBackslash = path := by
    refine (List.map_congr_left fun c hc => ?_).trans (List.map_id _)
    have hne : c ≠ ofChar '\\' := fun hbackslash => h.noBackslash (hbackslash ▸ hc)
    exact if_neg hne
  rw [slashed, hslashes, collapseSlashes_eq_self h.single]

theorem slashed_slashed (path : Text) : slashed (slashed path) = slashed path :=
  slashed_eq_self (slashed_spec path)

/-- A path behind another one is rewritten for itself if no separator runs on into it. -/
theorem slashed_append {s t : Text} (h : Unseparated t) :
    slashed (s ++ t) = slashed s ++ slashed t := by
  have hhead : (t.map slashOfBackslash).head? ≠ some (ofChar '/') := by
    cases t with
    | nil => simp
    | cons c t =>
        obtain ⟨hslash, hbackslash⟩ := h c rfl
        simpa [slashOfBackslash, hbackslash] using hslash
  rw [slashed, List.map_append, collapseSlashes_append hhead, slashed, slashed]

/-- Rewriting brings in nothing but slashes. -/
theorem mem_of_mem_slashed {c : CodePoint} {path : Text} (h : c ∈ slashed path) :
    c ∈ path ∨ c = ofChar '/' := by
  obtain ⟨d, hd, rfl⟩ := List.mem_map.mp (collapseSlashes_subset _ h)
  rw [slashOfBackslash]
  split
  · exact Or.inr rfl
  · exact Or.inl hd

theorem slashed_ne_nil {path : Text} (h : path ≠ []) : slashed path ≠ [] := by
  intro hnil
  have hhead := head?_collapseSlashes (path.map slashOfBackslash)
  rw [← slashed, hnil, List.head?_map] at hhead
  cases path with
  | nil => exact h rfl
  | cons c path => exact absurd hhead (by simp)

end Text

end PatchReview
