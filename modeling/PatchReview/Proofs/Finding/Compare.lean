/-
What comparing two runs finds.

Comparing looks at nothing but fingerprints.  Whether a finding counts as new is asked of
each occurrence for itself, so the current run is an interleaving of what is new and what
is unchanged, and no occurrence is lost or moved, however often its fingerprint is
repeated.  The fingerprints themselves are parted into three: those of the current run
alone, those of the previous run alone, and those of both, and with the runs exchanged the
first two change places.

Two runs that have the same fingerprints differ in nothing, whatever else their findings
say, and a run never differs from itself.
-/
import Mathlib.Data.List.Lattice
import PatchReview.Finding.Compare

namespace PatchReview

/-- The fingerprints of some findings. -/
def Finding.prints (findings : List Finding) : List Text := findings.map Finding.fingerprint

/-- A list that is made of two others: each of its occurrences is one of the first list or one of
the second, and both keep their order. -/
inductive Interleaves {α : Type} : List α → List α → List α → Prop
  | nil : Interleaves [] [] []
  | left {l r all : List α} (a : α) (h : Interleaves l r all) : Interleaves (a :: l) r (a :: all)
  | right {l r all : List α} (a : α) (h : Interleaves l r all) : Interleaves l (a :: r) (a :: all)

/-- What passes a test and what fails it make up the list. -/
theorem interleaves_filter {α : Type} (p : α → Bool) (l : List α) :
    Interleaves (l.filter fun a => !p a) (l.filter p) l := by
  induction l with
  | nil => exact .nil
  | cons a l ih =>
      cases hp : p a with
      | true => simpa [hp] using ih.right a
      | false => simpa [hp] using ih.left a

namespace Comparison

open Finding (prints)

variable {current previous : List Finding}

theorem known_iff {fs : List Finding} {f : Finding} :
    known fs f = true ↔ ∃ g ∈ fs, g.fingerprint = f.fingerprint := by
  simp [known]

/-! ### What is new, what is gone, and what stays -/

theorem known_iff_mem_prints {fs : List Finding} {f : Finding} :
    known fs f = true ↔ f.fingerprint ∈ prints fs :=
  known_iff.trans List.mem_map.symm

/-- The fingerprints of the findings that another run knows are those of both runs. -/
theorem mem_prints_filter_known {fs others : List Finding} {print : Text} :
    print ∈ prints (fs.filter (known others)) ↔ print ∈ prints fs ∧ print ∈ prints others := by
  constructor
  · intro h
    obtain ⟨f, hf, rfl⟩ := List.mem_map.mp h
    obtain ⟨hf, hknown⟩ := List.mem_filter.mp hf
    exact ⟨List.mem_map_of_mem hf, known_iff_mem_prints.mp hknown⟩
  · rintro ⟨h, hother⟩
    obtain ⟨f, hf, rfl⟩ := List.mem_map.mp h
    exact List.mem_map_of_mem (List.mem_filter.mpr ⟨hf, known_iff_mem_prints.mpr hother⟩)

/-- The fingerprints of the findings that another run does not know are those of one run alone. -/
theorem mem_prints_filter_not_known {fs others : List Finding} {print : Text} :
    print ∈ prints (fs.filter fun f => !known others f)
      ↔ print ∈ prints fs ∧ print ∉ prints others := by
  have hunknown : ∀ f, (!known others f) = true ↔ f.fingerprint ∉ prints others := by
    intro f
    rw [Bool.not_eq_true', ← Bool.not_eq_true, known_iff_mem_prints]
  constructor
  · intro h
    obtain ⟨f, hf, rfl⟩ := List.mem_map.mp h
    obtain ⟨hf, hnot⟩ := List.mem_filter.mp hf
    exact ⟨List.mem_map_of_mem hf, (hunknown f).mp hnot⟩
  · rintro ⟨h, hother⟩
    obtain ⟨f, hf, rfl⟩ := List.mem_map.mp h
    exact List.mem_map_of_mem (List.mem_filter.mpr ⟨hf, (hunknown f).mpr hother⟩)

theorem mem_prints_added {print : Text} :
    print ∈ prints (ofRuns current previous).added
      ↔ print ∈ prints current ∧ print ∉ prints previous := mem_prints_filter_not_known

theorem mem_prints_removed {print : Text} :
    print ∈ prints (ofRuns current previous).removed
      ↔ print ∈ prints previous ∧ print ∉ prints current := mem_prints_filter_not_known

theorem mem_prints_unchanged {print : Text} :
    print ∈ prints (ofRuns current previous).unchanged
      ↔ print ∈ prints current ∧ print ∈ prints previous := mem_prints_filter_known

/-- How a comparison parts two runs, by occurrences and by fingerprints. -/
structure Parts (current previous : List Finding) (c : Comparison) : Prop where
  /-- Every finding of the current run is new or unchanged, and stays in its place among them. -/
  interleaved : Interleaves c.added c.unchanged current
  gone : c.removed.Sublist previous
  added : ∀ f ∈ c.added, f.fingerprint ∉ prints previous
  removed : ∀ f ∈ c.removed, f.fingerprint ∉ prints current
  unchanged : ∀ f ∈ c.unchanged, f.fingerprint ∈ prints current ∧ f.fingerprint ∈ prints previous
  added_removed : (prints c.added).Disjoint (prints c.removed)
  added_unchanged : (prints c.added).Disjoint (prints c.unchanged)
  removed_unchanged : (prints c.removed).Disjoint (prints c.unchanged)
  /-- Nothing that either run has is left out. -/
  covered : ∀ print, print ∈ prints current ∨ print ∈ prints previous →
    print ∈ prints c.added ∨ print ∈ prints c.removed ∨ print ∈ prints c.unchanged

theorem parts_ofRuns (current previous : List Finding) :
    Parts current previous (ofRuns current previous) where
  interleaved := interleaves_filter (known previous) current
  gone := List.filter_sublist
  added _ hf := (mem_prints_added.mp (List.mem_map_of_mem hf)).2
  removed _ hf := (mem_prints_removed.mp (List.mem_map_of_mem hf)).2
  unchanged _ hf := mem_prints_unchanged.mp (List.mem_map_of_mem hf)
  added_removed _ hadded hremoved := (mem_prints_removed.mp hremoved).2 (mem_prints_added.mp hadded).1
  added_unchanged _ hadded hkept := (mem_prints_added.mp hadded).2 (mem_prints_unchanged.mp hkept).2
  removed_unchanged _ hremoved hkept :=
    (mem_prints_removed.mp hremoved).2 (mem_prints_unchanged.mp hkept).1
  covered print h := by
    rw [mem_prints_added, mem_prints_removed, mem_prints_unchanged]
    by_cases hcurrent : print ∈ prints current
    · by_cases hprevious : print ∈ prints previous
      · exact .inr (.inr ⟨hcurrent, hprevious⟩)
      · exact .inl ⟨hcurrent, hprevious⟩
    · exact .inr (.inl ⟨h.resolve_left hcurrent, hcurrent⟩)

/-- **Comparing parts the findings of two runs**, and with the runs exchanged what was new is gone,
what was gone is new, and the same fingerprints are unchanged. -/
theorem ofRuns_parts (current previous : List Finding) :
    Parts current previous (ofRuns current previous) ∧
      (ofRuns previous current).added = (ofRuns current previous).removed ∧
      (ofRuns previous current).removed = (ofRuns current previous).added ∧
      ∀ print, print ∈ prints (ofRuns previous current).unchanged
        ↔ print ∈ prints (ofRuns current previous).unchanged := by
  refine ⟨parts_ofRuns current previous, rfl, rfl, fun print => ?_⟩
  rw [mem_prints_unchanged, mem_prints_unchanged, and_comm]

/-! ### Runs with the same fingerprints -/

/-- If each run knows the findings of the other, nothing has changed. -/
theorem ofRuns_of_known (hcurrent : ∀ f ∈ current, known previous f = true)
    (hprevious : ∀ f ∈ previous, known current f = true) :
    ofRuns current previous = { added := [], removed := [], unchanged := current } := by
  have hadded : current.filter (fun f => !known previous f) = [] :=
    List.filter_eq_nil_iff.mpr fun f hf => by simp [hcurrent f hf]
  have hremoved : previous.filter (fun f => !known current f) = [] :=
    List.filter_eq_nil_iff.mpr fun f hf => by simp [hprevious f hf]
  rw [ofRuns, hadded, hremoved, List.filter_eq_self.mpr hcurrent]

/-- Runs with the same fingerprints do not differ. -/
theorem ofRuns_of_fingerprints
    (h : current.map Finding.fingerprint = previous.map Finding.fingerprint) :
    ofRuns current previous = { added := [], removed := [], unchanged := current } := by
  have hknown : ∀ {fs gs : List Finding}, fs.map Finding.fingerprint = gs.map Finding.fingerprint →
      ∀ f ∈ fs, known gs f = true := by
    intro fs gs hprints f hf
    have hmem : f.fingerprint ∈ gs.map Finding.fingerprint := hprints ▸ List.mem_map_of_mem hf
    exact known_iff.mpr (List.mem_map.mp hmem)
  exact ofRuns_of_known (hknown h) (hknown h.symm)

/-- A run does not differ from itself. -/
theorem ofRuns_self (fs : List Finding) :
    ofRuns fs fs = { added := [], removed := [], unchanged := fs } := ofRuns_of_fingerprints rfl

end Comparison

end PatchReview
