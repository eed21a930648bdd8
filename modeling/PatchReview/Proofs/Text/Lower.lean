/-
Small letters in ASCII.

Among the code points of ASCII only the 26 capitals have other small letters, so writing a text of
ASCII small is the same whatever stands around it.  Beyond ASCII there are a few hundred capitals
more, and two of their small letters fall back into ASCII: the Kelvin sign becomes `k`, and the
capital I with a dot becomes an `i` that a dot above follows.  So a word of ASCII without a `k` can
only come from ASCII, and whether a text is that word in small letters can be asked of the capitals
of ASCII alone.
-/
import PatchReview.Text.Lower

namespace PatchReview

namespace CodePoint

theorem ofNat?_toNat (c : CodePoint) : ofNat? c.toNat = some c := by
  rw [ofNat?, dif_pos c.isLt]

theorem toNat_le_toNat_asciiLower (c : CodePoint) : c.toNat ≤ c.asciiLower.toNat := by
  rw [asciiLower]
  split
  · exact Nat.le_add_right _ _
  · exact Nat.le_refl _

/-- Of the runs of capitals only the first one is about ASCII. -/
theorem smallAmong_of_ascii {n : Nat} (h : n < 128) :
    smallAmong n capitalRuns = if 65 ≤ n ∧ n ≤ 90 then n + 32 else n := by
  have hruns : capitalRuns = ⟨65, 90, 1, 32⟩ :: ⟨192, 214, 1, 32⟩ :: capitalRuns.drop 2 := rfl
  have hbehind : n < 192 := by omega
  rw [hruns, smallAmong, smallAmong, if_pos hbehind]
  simp only [CapitalRun.holds, CapitalRun.small, Nat.mod_one]
  by_cases hlow : n < 65
  · rw [if_pos hlow, if_neg (by omega)]
  · by_cases hhigh : n ≤ 90
    · have hsmall : ((n : Int) + 32).toNat = n + 32 := by omega
      simp [hlow, hhigh, Nat.le_of_not_lt hlow, hsmall]
    · simp [hhigh]

theorem lower_of_ascii {c : CodePoint} (h : c.toNat < 128) : c.lower = c.asciiLower := by
  rw [lower, smallAmong_of_ascii h, asciiLower]
  split
  · rw [ofNat?, dif_pos (by omega), Option.getD_some]
  · rw [ofNat?_toNat, Option.getD_some]

/-- A code point stays unless some run holds it. -/
theorem smallAmong_cases (n : Nat) (runs : List CapitalRun) :
    smallAmong n runs = n ∨
      ∃ run ∈ runs, run.holds n = true ∧ smallAmong n runs = run.small n := by
  fun_induction smallAmong n runs with
  | case1 => exact Or.inl rfl
  | case2 => exact Or.inl rfl
  | case3 run rest _ hholds => exact Or.inr ⟨run, by simp, hholds, rfl⟩
  | case4 run rest _ _ ih =>
      rcases ih with hstays | ⟨other, hother, hholds, hsmall⟩
      · exact Or.inl hstays
      · exact Or.inr ⟨other, by simp [hother], hholds, hsmall⟩

/-- Beyond ASCII, only the capital I with a dot and the Kelvin sign have small letters in ASCII. -/
theorem capitalRuns_beyond : ∀ run ∈ capitalRuns,
    run.last < 128 ∨ 128 ≤ (run.first : Int) + run.shift ∨
      run.first = run.last ∧ (run.first = 304 ∨ run.first = 8490 ∧ run.shift = -8383) := by
  decide +kernel

/-- A small letter of ASCII is that of a code point of ASCII, two capitals apart. -/
theorem ascii_of_lower {c : CodePoint} (h : c.lower.toNat < 128) (hk : c.lower ≠ ofChar 'k')
    (hdotted : c ≠ ofChar 'İ') : c.toNat < 128 := by
  rcases smallAmong_cases c.toNat capitalRuns with hstays | ⟨run, hrun, hholds, hsmall⟩
  · rw [lower, hstays, ofNat?_toNat, Option.getD_some] at h
    exact h
  · simp only [CapitalRun.holds, Bool.and_eq_true, decide_eq_true_eq] at hholds
    rw [lower, hsmall, CapitalRun.small, ofNat?] at h hk
    -- The code point lies between the ends of the run, which is all that the cases need of it.
    rcases capitalRuns_beyond run hrun with hlast | hfar | ⟨hone, hfirst | ⟨hfirst, hshift⟩⟩
    · omega
    · split at h
      · simp only [Option.getD_some] at h
        omega
      · exact h
    · have hcode : c.toNat = 304 := by omega
      exact absurd (ext hcode) hdotted
    · have hcode : c.toNat = 8490 := by omega
      rw [hcode, hshift] at hk
      exact absurd rfl hk

end CodePoint

namespace Text

/-- Small letters of ASCII do not depend on what stands around them. -/
theorem lowerFrom_of_ascii {before t : Text} (h : ∀ c ∈ t, c.toNat < 128) :
    lowerFrom before t = asciiLower t := by
  induction t generalizing before with
  | nil => rfl
  | cons c t ih =>
      have hc : c.toNat < 128 := h c (by simp)
      have hdotted : c ≠ CodePoint.ofChar 'İ' := fun heq => absurd hc (by rw [heq]; decide)
      have hsigma : c ≠ CodePoint.ofChar 'Σ' := fun heq => absurd hc (by rw [heq]; decide)
      rw [lowerFrom, lowerBetween, if_neg hdotted, if_neg hsigma, CodePoint.lower_of_ascii hc,
        ih fun d hd => h d (by simp [hd])]
      rfl

/-- What is written small in ASCII, and without a `k`, stood in ASCII before. -/
theorem ascii_of_lowerFrom {before t : Text}
    (h : ∀ d ∈ lowerFrom before t, d.toNat < 128 ∧ d ≠ CodePoint.ofChar 'k') :
    ∀ c ∈ t, c.toNat < 128 := by
  induction t generalizing before with
  | nil => simp
  | cons c t ih =>
      rw [lowerFrom] at h
      have hone : ∀ d ∈ lowerBetween before c t, d.toNat < 128 ∧ d ≠ CodePoint.ofChar 'k' :=
        fun d hd => h d (List.mem_append_left _ hd)
      have hdotted : c ≠ CodePoint.ofChar 'İ' := by
        rintro rfl
        exact absurd (hone (CodePoint.ofChar '\u0307') (by simp [lowerBetween])).1 (by decide)
      have hsigma : c ≠ CodePoint.ofChar 'Σ' := by
        rintro rfl
        rw [lowerBetween, if_neg hdotted, if_pos rfl] at hone
        split at hone
        · exact absurd (hone _ (List.mem_singleton_self _)).1 (by decide)
        · exact absurd (hone _ (List.mem_singleton_self _)).1 (by decide)
      rw [lowerBetween, if_neg hdotted, if_neg hsigma] at hone
      obtain ⟨hascii, hk⟩ := hone c.lower (List.mem_singleton_self _)
      intro d hd
      rcases List.mem_cons.mp hd with rfl | hd
      · exact CodePoint.ascii_of_lower hascii hk hdotted
      · exact ih (fun e he => h e (List.mem_append_right _ he)) d hd

/-- **For a word of ASCII without a `k`, the capitals of ASCII are all that counts.** -/
theorem lower_eq_iff {t word : Text}
    (hword : ∀ c ∈ word, c.toNat < 128 ∧ c ≠ CodePoint.ofChar 'k') :
    lower t = word ↔ asciiLower t = word := by
  constructor
  · rintro rfl
    exact (lowerFrom_of_ascii (ascii_of_lowerFrom hword)).symm
  · rintro rfl
    refine lowerFrom_of_ascii fun c hc => ?_
    have hascii := (hword c.asciiLower (List.mem_map_of_mem hc)).1
    exact Nat.lt_of_le_of_lt c.toNat_le_toNat_asciiLower hascii

/-- Looking a word up among names in any letter case finds what is named so in small letters. -/
theorem find?_asciiLower_iff {α : Type} {name : α → Text} {all : List α} {a : α} {word : Text}
    (hname : ∀ c ∈ name a, c.toNat < 128 ∧ c ≠ CodePoint.ofChar 'k')
    (hself : (all.find? fun b => name b == name a) = some a) :
    (all.find? fun b => name b == word.asciiLower) = some a ↔ lower word = name a := by
  rw [lower_eq_iff hname]
  constructor
  · intro h
    have hfound : name a = word.asciiLower := by simpa using List.find?_some h
    exact hfound.symm
  · intro h
    rw [h]
    exact hself

end Text

end PatchReview
