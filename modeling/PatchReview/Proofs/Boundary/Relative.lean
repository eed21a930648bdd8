/-
Specifiers without the way to them.

A specifier may start with the way from the importing file to the imported one, and that
way may be written with either separator.  Boundaries look at what stands behind it.
Dropping one step of the way exposes nothing new: behind a step no separator follows, so
what is left is rewritten as it would be without the step, and no step is left at the
start.  That is why a specifier that has been normalized once stays as it is.
-/
import PatchReview.Boundary.Basic
import PatchReview.Proofs.Boundary.Specifier

namespace PatchReview

namespace Text

open CodePoint (ofChar)

/-- The steps of a way: to stay in a folder or to leave it, with either separator. -/
def relativeSteps : List Text := ["./", "../", ".\\", "..\\"]

/-- A specifier as boundaries compare it: it has single slashes and starts with no step. -/
structure NormalSpecifier (t : Text) : Prop extends Slashed t where
  notHere : ¬("./" : Text) <+: t
  notUp : ¬("../" : Text) <+: t

/-! ### Dropping steps -/

theorem dropRelative_here (t : Text) : dropRelative ("./" ++ t) = dropRelative t := by
  cases t with
  | nil => rfl
  | cons c t => rfl

theorem dropRelative_up (t : Text) : dropRelative ("../" ++ t) = dropRelative t := rfl

theorem not_isPrefix_of_length_lt {mark t : Text} (h : t.length < mark.length) : ¬mark <+: t :=
  fun hprefix => absurd hprefix.length_le (Nat.not_le.mpr h)

theorem here_isPrefix_iff {c d : CodePoint} {t : Text} :
    ("./" : Text) <+: c :: d :: t ↔ c = ofChar '.' ∧ d = ofChar '/' := by
  have hmark : ("./" : Text) = [ofChar '.', ofChar '/'] := rfl
  simp [hmark, eq_comm]

theorem up_isPrefix_iff {c d e : CodePoint} {t : Text} :
    ("../" : Text) <+: c :: d :: e :: t ↔ c = ofChar '.' ∧ d = ofChar '.' ∧ e = ofChar '/' := by
  have hmark : ("../" : Text) = [ofChar '.', ofChar '.', ofChar '/'] := rfl
  simp [hmark, eq_comm]

theorem dropRelative_suffix (t : Text) : dropRelative t <:+ t := by
  fun_induction dropRelative t with
  | case1 c d rest hhere ih => exact ih.trans (List.suffix_append [c, d] rest)
  | case2 => exact List.suffix_rfl
  | case3 c d hhere e after hup ih => exact ih.trans (List.suffix_append [c, d, e] after)
  | case4 => exact List.suffix_rfl
  | case5 => exact List.suffix_rfl

/-- What is left starts with no step. -/
theorem not_isPrefix_dropRelative (t : Text) :
    ¬("./" : Text) <+: dropRelative t ∧ ¬("../" : Text) <+: dropRelative t := by
  fun_induction dropRelative t with
  | case1 c d rest hhere ih => exact ih
  | case2 c d hhere =>
      exact ⟨fun h => hhere (here_isPrefix_iff.mp h), not_isPrefix_of_length_lt (Nat.lt_add_one 2)⟩
  | case3 c d hhere e after hup ih => exact ih
  | case4 c d hhere e after hup =>
      exact ⟨fun h => hhere (here_isPrefix_iff.mp h), fun h => hup (up_isPrefix_iff.mp h)⟩
  | case5 t hshort =>
      match t with
      | [] => decide
      | [c] => exact ⟨not_isPrefix_of_length_lt (Nat.lt_add_one 1),
          not_isPrefix_of_length_lt (Nat.lt_add_of_pos_right Nat.two_pos)⟩
      | c :: d :: rest => exact (hshort c d rest rfl).elim

/-- A text that starts with no step stays as it is. -/
theorem dropRelative_eq_self {t : Text} (hhere : ¬("./" : Text) <+: t)
    (hup : ¬("../" : Text) <+: t) : dropRelative t = t := by
  fun_cases dropRelative t with
  | case1 c d rest h => exact absurd (here_isPrefix_iff.mpr h) hhere
  | case2 => rfl
  | case3 c d hnot e after h => exact absurd (up_isPrefix_iff.mpr h) hup
  | case4 => rfl
  | case5 => rfl

/-! ### Normal specifiers -/

theorem normalSpecifier_spec (t : Text) : NormalSpecifier (normalSpecifier t) where
  toSlashed := (slashed_spec t).of_suffix (dropRelative_suffix _)
  notHere := (not_isPrefix_dropRelative _).1
  notUp := (not_isPrefix_dropRelative _).2

/-- A normal specifier stays as it is. -/
theorem NormalSpecifier.eq_self {t : Text} (h : NormalSpecifier t) : normalSpecifier t = t := by
  rw [normalSpecifier, slashed_eq_self h.toSlashed, dropRelative_eq_self h.notHere h.notUp]

theorem slashed_step : ∀ step ∈ relativeSteps, slashed step = "./" ∨ slashed step = "../" := by
  decide

/-- A step in front of a specifier is not looked at. -/
theorem normalSpecifier_step {step t : Text} (hstep : step ∈ relativeSteps) (ht : Unseparated t) :
    normalSpecifier (step ++ t) = normalSpecifier t := by
  rw [normalSpecifier, slashed_append ht]
  rcases slashed_step step hstep with h | h
  · rw [h, dropRelative_here, normalSpecifier]
  · rw [h, dropRelative_up, normalSpecifier]

theorem unseparated_step : ∀ step ∈ relativeSteps, ∀ t, Unseparated (step ++ t) := by
  intro step hstep t
  have hdot : step.head? = some (ofChar '.') := by
    revert hstep
    revert step
    decide
  rw [Unseparated, List.head?_append, hdot, Option.some_or]
  decide

/-- Nor is any number of steps. -/
theorem normalSpecifier_steps {steps : List Text} {t : Text}
    (hsteps : ∀ step ∈ steps, step ∈ relativeSteps) (ht : Unseparated t) :
    normalSpecifier (steps.flatten ++ t) = normalSpecifier t := by
  induction steps with
  | nil => rfl
  | cons step steps ih =>
      have hrest : ∀ step ∈ steps, step ∈ relativeSteps := fun s hs => hsteps s (by simp [hs])
      have hunseparated : Unseparated (steps.flatten ++ t) := by
        cases steps with
        | nil => exact ht
        | cons next steps =>
            rw [List.flatten_cons, List.append_assoc]
            exact unseparated_step next (hrest next (by simp)) _
      rw [List.flatten_cons, List.append_assoc,
        normalSpecifier_step (hsteps step (by simp)) hunseparated, ih hrest]

end Text

open Text

/-- A rule sees nothing of a specifier but its normal form. -/
theorem BoundaryRule.forbids_congr {s t : Text} (h : normalSpecifier s = normalSpecifier t)
    (rule : BoundaryRule) (file : Text) : rule.forbids file s = rule.forbids file t := by
  rw [forbids, forbids, h]

theorem Boundaries.broken_congr {s t : Text} (h : normalSpecifier s = normalSpecifier t)
    (boundaries : Boundaries) (file : Text) :
    boundaries.broken file s = boundaries.broken file t := by
  simp only [broken, BoundaryRule.forbids_congr h]

/-- **Specifiers are judged without the way to them**, which may be of any length and have
separators of both kinds, and normalizing leaves nothing to normalize. -/
theorem Boundaries.broken_relative {steps : List Text} {specifier : Text}
    (hsteps : ∀ step ∈ steps, step ∈ relativeSteps) (hspecifier : Unseparated specifier) :
    normalSpecifier (steps.flatten ++ specifier) = normalSpecifier specifier ∧
      (∀ (rule : BoundaryRule) file,
        rule.forbids file (steps.flatten ++ specifier) = rule.forbids file specifier) ∧
      (∀ (boundaries : Boundaries) file,
        boundaries.broken file (steps.flatten ++ specifier) = boundaries.broken file specifier) ∧
      ∀ t, normalSpecifier (normalSpecifier t) = normalSpecifier t ∧
        slashed (slashed t) = slashed t ∧ NormalSpecifier (normalSpecifier t) := by
  have h := normalSpecifier_steps hsteps hspecifier
  refine ⟨h, fun rule file => rule.forbids_congr h file,
    fun boundaries file => boundaries.broken_congr h file, fun t => ?_⟩
  exact ⟨(normalSpecifier_spec t).eq_self, slashed_slashed t, normalSpecifier_spec t⟩

/-- Steps with separators of both kinds, in front of a specifier with doubled ones. -/
theorem Boundaries.broken_relative_mixed :
    let steps : List Text := ["../", ".\\", "..\\"]
    let rule : BoundaryRule := { name := "r", source := "src/**", target := "lib/*" }
    (∀ step ∈ steps, step ∈ relativeSteps) ∧ Unseparated "lib\\/x" ∧
      normalSpecifier (steps.flatten ++ "lib\\/x") = "lib/x" ∧
      Boundaries.broken { forbidden := [rule] } "src/a" (steps.flatten ++ "lib\\/x") = [rule] := by
  intro steps rule
  have hsteps : ∀ step ∈ steps, step ∈ relativeSteps := by decide
  have hspecifier : Unseparated "lib\\/x" := by decide
  obtain ⟨hnormal, -, hbroken, -⟩ := Boundaries.broken_relative hsteps hspecifier
  exact ⟨hsteps, hspecifier, hnormal.trans (by decide), (hbroken _ _).trans (by decide +kernel)⟩

end PatchReview
