/-
What it takes for tokens to match.

Matching passes the rest of the path on from token to token.  Read as a statement about
the whole path, this says that the path can be cut into pieces, one for each token, and
here that is said for each way of passing on.  On a path without line feeds a run on one
line may be any run, and the end of the path is the end of the text.
-/
import Mathlib.Data.List.Basic
import PatchReview.Glob.Match

namespace PatchReview

namespace Glob

open CodePoint (lineFeed)

variable {p : CodePoint → Bool} {next : Text → Bool} {t : Text}

theorem afterOne_iff :
    afterOne p next t = true ↔ ∃ c v, t = c :: v ∧ p c = true ∧ next v = true := by
  cases t with
  | nil => simp [afterOne]
  | cons c t => simp [afterOne]

theorem afterSlash_iff : afterSlash next t = true ↔ ∃ v, t = slash :: v ∧ next v = true := by
  cases t with
  | nil => simp [afterSlash]
  | cons c t => simp [afterSlash]

/-- A run is a piece of code points that are all of its kind. -/
theorem afterRun_iff :
    afterRun p next t = true ↔ ∃ u v, t = u ++ v ∧ (∀ c ∈ u, p c = true) ∧ next v = true := by
  induction t with
  | nil => simp [afterRun]
  | cons c t ih =>
      rw [afterRun, Bool.or_eq_true, Bool.and_eq_true, ih]
      constructor
      · rintro (hnext | ⟨hc, u, v, rfl, hu, hnext⟩)
        · exact ⟨[], c :: t, rfl, by simp, hnext⟩
        · exact ⟨c :: u, v, rfl, by simpa using ⟨hc, hu⟩, hnext⟩
      · rintro ⟨u, v, ht, hu, hnext⟩
        cases u with
        | nil =>
            rw [List.nil_append] at ht
            exact Or.inl (ht ▸ hnext)
        | cons d u =>
            obtain ⟨rfl, rfl⟩ := List.cons.inj ht
            exact Or.inr ⟨hu c (by simp), u, v, rfl, fun d hd => hu d (by simp [hd]), hnext⟩

/-! ### Paths on one line -/

theorem atEnd_iff (h : lineFeed ∉ t) : atEnd t = true ↔ t = [] := by
  have hfeed : t ≠ [lineFeed] := fun ht => h (by simp [ht])
  simp [atEnd, hfeed]

/-- A run on one line is any piece of a path without line feeds. -/
theorem afterRun_onLine_iff (h : lineFeed ∉ t) :
    afterRun onLine next t = true ↔ ∃ u v, t = u ++ v ∧ next v = true := by
  rw [afterRun_iff]
  constructor
  · rintro ⟨u, v, ht, -, hnext⟩
    exact ⟨u, v, ht, hnext⟩
  · rintro ⟨u, v, rfl, hnext⟩
    refine ⟨u, v, rfl, fun c hc => ?_, hnext⟩
    have hne : c ≠ lineFeed := fun hcl => h (by simp [← hcl, hc])
    simpa [onLine] using hne

/-- What matches behind folders matches the path or what stands behind one of its slashes. -/
theorem accepts_folders_iff (h : lineFeed ∉ t) (rest : List Token) :
    accepts (.folders :: rest) t = true ↔
      ∃ v, (v = t ∨ ∃ u, t = u ++ slash :: v) ∧ accepts rest v = true := by
  rw [accepts, Bool.or_eq_true, afterRun_onLine_iff h]
  simp only [afterSlash_iff]
  constructor
  · rintro (hrest | ⟨u, v, rfl, w, rfl, hrest⟩)
    · exact ⟨t, Or.inl rfl, hrest⟩
    · exact ⟨w, Or.inr ⟨u, rfl⟩, hrest⟩
  · rintro ⟨v, rfl | ⟨u, rfl⟩, hrest⟩
    · exact Or.inl hrest
    · exact Or.inr ⟨u, slash :: v, rfl, v, rfl, hrest⟩

/-- The piece of a path that a token takes. -/
def Token.Takes (u : Text) : Token → Prop
  | .literal c => ∃ d, u = [d] ∧ (d == c) = true
  | .one => ∃ d, u = [d] ∧ (d != slash) = true
  | .among cls => ∃ d, u = [d] ∧ cls.holds d = true
  | .run => ∀ d ∈ u, (d != slash) = true
  | .span => True
  | .folders => u = [] ∨ ∃ w, u = w ++ [slash]
  | .subtree => u = [] ∨ ∃ w, u = slash :: w

theorem afterOne_iff_append :
    afterOne p next t = true ↔
      ∃ u v, t = u ++ v ∧ (∃ d, u = [d] ∧ p d = true) ∧ next v = true := by
  rw [afterOne_iff]
  constructor
  · rintro ⟨c, v, rfl, hc, hv⟩
    exact ⟨[c], v, rfl, ⟨c, rfl, hc⟩, hv⟩
  · rintro ⟨u, v, rfl, ⟨c, rfl, hc⟩, hv⟩
    exact ⟨c, v, rfl, hc, hv⟩

/-- **Each token takes a piece of the path** and passes on what is left. -/
theorem accepts_cons_iff (h : lineFeed ∉ t) (token : Token) (rest : List Token) :
    accepts (token :: rest) t = true ↔
      ∃ u v, t = u ++ v ∧ token.Takes u ∧ accepts rest v = true := by
  cases token with
  | literal c => exact afterOne_iff_append
  | one => exact afterOne_iff_append
  | among cls => exact afterOne_iff_append
  | run => exact afterRun_iff
  | span =>
      rw [accepts, afterRun_onLine_iff h]
      simp only [Token.Takes, true_and]
  | folders =>
      rw [accepts_folders_iff h]
      constructor
      · rintro ⟨v, rfl | ⟨w, rfl⟩, hv⟩
        · exact ⟨[], v, rfl, Or.inl rfl, hv⟩
        · exact ⟨w ++ [slash], v, by simp, Or.inr ⟨w, rfl⟩, hv⟩
      · rintro ⟨u, v, rfl, rfl | ⟨w, rfl⟩, hv⟩
        · exact ⟨v, Or.inl rfl, hv⟩
        · exact ⟨v, Or.inr ⟨w, by simp⟩, hv⟩
  | subtree =>
      rw [accepts, Bool.or_eq_true, afterSlash_iff]
      constructor
      · rintro (hv | ⟨below, rfl, hbelow⟩)
        · exact ⟨[], t, rfl, Or.inl rfl, hv⟩
        · obtain ⟨w, v, rfl, -, hv⟩ := afterRun_iff.mp hbelow
          exact ⟨slash :: w, v, rfl, Or.inr ⟨w, rfl⟩, hv⟩
      · rintro ⟨u, v, rfl, rfl | ⟨w, rfl⟩, hv⟩
        · exact Or.inl hv
        · have hfeed : lineFeed ∉ w ++ v := fun hmem => h (List.mem_cons_of_mem slash hmem)
          exact Or.inr ⟨w ++ v, rfl, (afterRun_onLine_iff hfeed).mpr ⟨w, v, rfl, hv⟩⟩

/-- **Tokens behind tokens** match what those leave of the path. -/
theorem accepts_append_iff (h : lineFeed ∉ t) (front back : List Token) :
    accepts (front ++ back) t = true ↔
      ∃ u v, t = u ++ v ∧ accepts front u = true ∧ accepts back v = true := by
  induction front generalizing t with
  | nil =>
      constructor
      · intro hback
        exact ⟨[], t, rfl, rfl, hback⟩
      · rintro ⟨u, v, rfl, hu, hv⟩
        rw [(atEnd_iff fun hmem => h (List.mem_append_left v hmem)).mp hu]
        exact hv
  | cons token front ih =>
      rw [List.cons_append, accepts_cons_iff h]
      constructor
      · rintro ⟨u, v, rfl, htakes, hv⟩
        obtain ⟨v, w, rfl, hfront, hback⟩ := (ih fun hmem => h (List.mem_append_right u hmem)).mp hv
        rw [← List.append_assoc] at h ⊢
        have hfeed : lineFeed ∉ u ++ v := fun hmem => h (List.mem_append_left w hmem)
        exact ⟨u ++ v, w, rfl,
          (accepts_cons_iff hfeed token front).mpr ⟨u, v, rfl, htakes, hfront⟩, hback⟩
      · rintro ⟨uv, w, rfl, hfront, hback⟩
        obtain ⟨u, v, rfl, htakes, hfront⟩ :=
          (accepts_cons_iff (fun hmem => h (List.mem_append_left w hmem)) token front).mp hfront
        rw [List.append_assoc] at h ⊢
        have hfeed : lineFeed ∉ v ++ w := fun hmem => h (List.mem_append_right u hmem)
        exact ⟨u, v ++ w, rfl, htakes, (ih hfeed).mpr ⟨v, w, rfl, hfront, hback⟩⟩

/-- A final span matches any path. -/
theorem accepts_span (h : lineFeed ∉ t) : accepts [.span] t = true :=
  (afterRun_onLine_iff h).mpr ⟨t, [], (List.append_nil t).symm, rfl⟩

/-- A final subtree matches nothing, or a slash and all behind it. -/
theorem accepts_subtree_iff (h : lineFeed ∉ t) :
    accepts [.subtree] t = true ↔ t = [] ∨ ∃ v, t = slash :: v := by
  rw [accepts, Bool.or_eq_true, afterSlash_iff, accepts, atEnd_iff h]
  constructor
  · rintro (hnil | ⟨v, hv, -⟩)
    · exact Or.inl hnil
    · exact Or.inr ⟨v, hv⟩
  · rintro (hnil | ⟨v, rfl⟩)
    · exact Or.inl hnil
    · have hv : lineFeed ∉ v := fun hmem => h (List.mem_cons_of_mem _ hmem)
      exact Or.inr ⟨v, rfl, (afterRun_onLine_iff hv).mpr ⟨v, [], (List.append_nil v).symm, rfl⟩⟩

end Glob

end PatchReview
