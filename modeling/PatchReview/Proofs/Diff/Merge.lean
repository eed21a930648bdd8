/-
Merging the sections of a path.

Sections are merged one after another, each into the entry of its path.  What comes of
it can be said without the order of that work: there is one entry for each path, in the
order in which the paths first appear, and an entry has the lines of all sections of its
path in the order of the diff.  Nothing is lost and nothing is counted twice.
-/
import Mathlib.Data.List.Induction
import PatchReview.Diff.Merge
import PatchReview.Proofs.Sorting

namespace PatchReview

/-! ### First appearances -/

/-- A new item at the end appears at the end, and one that has appeared changes nothing. -/
theorem eraseDups_append_singleton {α : Type} [BEq α] [LawfulBEq α] (l : List α) (a : α) :
    (l ++ [a]).eraseDups = if a ∈ l then l.eraseDups else l.eraseDups ++ [a] := by
  rw [List.eraseDups_append]
  by_cases h : a ∈ l
  · simp [List.removeAll, h]
  · simp [List.removeAll, h, List.eraseDups_cons]

namespace FileDiff

variable {files : List FileDiff} {path : Text}

/-- All added lines of a path, section after section. -/
def linesOf (path : Text) (files : List FileDiff) : List AddedLine :=
  (files.filter fun file => file.path = path).flatMap addedLines

/-- The entry of a path. -/
def entryOf (files : List FileDiff) (path : Text) : PathLines := ⟨path, linesOf path files⟩

/-- **The changed paths are the paths in the order of their first sections.** -/
theorem changedPaths_eq (files : List FileDiff) :
    changedPaths files = (files.map FileDiff.path).eraseDups := by
  unfold changedPaths
  induction files using List.reverseRecOn with
  | nil => rfl
  | append_singleton files file ih =>
      have hmem : file.path ∈ files.foldl
          (fun seen file => if file.path ∈ seen then seen else file.path :: seen) [] ↔
            file.path ∈ files.map FileDiff.path := by
        rw [← List.mem_reverse, ih, List.mem_eraseDups]
      rw [List.map_append, List.map_singleton, eraseDups_append_singleton, List.foldl_append,
        List.foldl_cons, List.foldl_nil, ← ih]
      by_cases h : file.path ∈ files.map FileDiff.path
      · rw [if_pos h, if_pos (hmem.mpr h)]
      · rw [if_neg h, if_neg (mt hmem.mp h), List.reverse_cons]

theorem nodup_changedPaths (files : List FileDiff) : (changedPaths files).Nodup := by
  rw [changedPaths_eq]
  exact nodup_eraseDups _

theorem mem_changedPaths : path ∈ changedPaths files ↔ ∃ file ∈ files, file.path = path := by
  rw [changedPaths_eq, List.mem_eraseDups, List.mem_map]

theorem linesOf_append_singleton (file : FileDiff) :
    linesOf path (files ++ [file])
      = linesOf path files ++ if file.path = path then file.addedLines else [] := by
  unfold linesOf
  rw [List.filter_append, List.flatMap_append]
  by_cases h : file.path = path
  · simp [h]
  · simp [h]

/-- A diff adds a line to a path. -/
def Adds (files : List FileDiff) (path : Text) (line : AddedLine) : Prop :=
  ∃ file ∈ files, file.path = path ∧ line ∈ file.addedLines

theorem mem_linesOf {line : AddedLine} : line ∈ linesOf path files ↔ Adds files path line := by
  simp only [linesOf, List.mem_flatMap, List.mem_filter, decide_eq_true_eq, Adds]
  constructor
  · rintro ⟨file, ⟨hfile, hpath⟩, hline⟩
    exact ⟨file, hfile, hpath, hline⟩
  · rintro ⟨file, hfile, hpath, hline⟩
    exact ⟨file, ⟨hfile, hpath⟩, hline⟩

/-! ### One section more -/

/-- Lines for a path that has no entry make one at the end. -/
theorem append_of_not_mem {lines : List AddedLine} {paths : List Text} (h : path ∉ paths) :
    PathLines.append path lines (paths.map (entryOf files))
      = paths.map (entryOf files) ++ [⟨path, lines⟩] := by
  induction paths with
  | nil => rfl
  | cons p paths ih =>
      have hne : (entryOf files p).path ≠ path := fun hp => h (by simp [← hp, entryOf])
      rw [List.map_cons, PathLines.append, if_neg hne, ih fun hm => h (by simp [hm]),
        List.cons_append]

/-- Lines for a path that has an entry are the lines of one section more. -/
theorem append_of_mem {file : FileDiff} {paths : List Text} (hnodup : paths.Nodup)
    (h : file.path ∈ paths) :
    PathLines.append file.path file.addedLines (paths.map (entryOf files))
      = paths.map (entryOf (files ++ [file])) := by
  induction paths with
  | nil => simp at h
  | cons p paths ih =>
      rw [List.nodup_cons] at hnodup
      rw [List.map_cons, List.map_cons, PathLines.append]
      by_cases hp : p = file.path
      · subst hp
        have hrest : ∀ q ∈ paths, entryOf files q = entryOf (files ++ [file]) q := by
          intro q hq
          have hne : file.path ≠ q := fun hpq => hnodup.1 (hpq ▸ hq)
          simp [entryOf, linesOf_append_singleton, hne]
        rw [if_pos (show (entryOf files file.path).path = file.path from rfl),
          List.map_congr_left hrest]
        simp [entryOf, linesOf_append_singleton]
      · have hmem : file.path ∈ paths := by
          rcases List.mem_cons.mp h with heq | hm
          · exact absurd heq.symm hp
          · exact hm
        rw [if_neg (show (entryOf files p).path ≠ file.path from hp), ih hnodup.2 hmem]
        have hne : file.path ≠ p := fun hpq => hp hpq.symm
        simp [entryOf, linesOf_append_singleton, hne]

/-- **Merging keeps every added line once, in order, under its path.** -/
theorem addedByFile_eq (files : List FileDiff) :
    addedByFile files = (changedPaths files).map (entryOf files) := by
  induction files using List.reverseRecOn with
  | nil => rfl
  | append_singleton files file ih =>
      have hstep : addedByFile (files ++ [file])
          = PathLines.append file.path file.addedLines (addedByFile files) := by
        simp [addedByFile]
      have hpaths := changedPaths_eq (files ++ [file])
      rw [List.map_append, List.map_singleton, eraseDups_append_singleton,
        ← changedPaths_eq] at hpaths
      rw [hstep, ih, hpaths]
      by_cases h : file.path ∈ files.map FileDiff.path
      · rw [if_pos h]
        refine append_of_mem (nodup_changedPaths files) ?_
        rw [changedPaths_eq, List.mem_eraseDups]
        exact h
      · have hnot : file.path ∉ changedPaths files := by
          rw [changedPaths_eq, List.mem_eraseDups]
          exact h
        rw [if_neg h, append_of_not_mem hnot, List.map_append]
        congr 1
        · refine List.map_congr_left fun q hq => ?_
          have hne : file.path ≠ q := fun hpq => hnot (hpq ▸ hq)
          simp [entryOf, linesOf_append_singleton, hne]
        · have hnone : linesOf file.path files = [] := by
            simp only [linesOf, List.flatMap_eq_nil_iff, List.mem_filter, decide_eq_true_eq]
            intro f hf
            exact absurd (List.mem_map.mpr ⟨f, hf.1, hf.2⟩) h
          simp [entryOf, linesOf_append_singleton, hnone]

theorem adds_of_mem_addedByFile {entry : PathLines} {line : AddedLine}
    (hentry : entry ∈ addedByFile files) (hline : line ∈ entry.lines) :
    Adds files entry.path line := by
  rw [addedByFile_eq] at hentry
  obtain ⟨path, -, rfl⟩ := List.mem_map.mp hentry
  exact mem_linesOf.mp hline

theorem Adds.mem_changedPaths {line : AddedLine} (h : Adds files path line) :
    path ∈ changedPaths files := by
  obtain ⟨file, hfile, hpath, -⟩ := h
  exact FileDiff.mem_changedPaths.mpr ⟨file, hfile, hpath⟩

end FileDiff

end PatchReview
