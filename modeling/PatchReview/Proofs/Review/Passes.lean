/-
What the two passes look at.

The rules look at paths, with the added lines of all sections of a path put together, and
the boundaries look at the sections as they stand in the diff.  Merging a section adds its
lines under its path and touches nothing else, wherever the entry of the path stands, so in
the end both passes have looked at every added line as often as the diff has it.
-/
import PatchReview.Proofs.Review.BoundaryPass
import PatchReview.Proofs.Review.RulePass

namespace PatchReview

/-- The lines of an entry, each with the path. -/
def PathLines.pairs (entry : PathLines) : List (Text × AddedLine) :=
  entry.lines.map (entry.path, ·)

/-- The added lines of a section, each with the path of the section. -/
def FileDiff.pairs (file : FileDiff) : List (Text × AddedLine) :=
  file.addedLines.map (file.path, ·)

/-! ### Merging -/

/-- **Merging a section adds its lines under its path**, and nothing is lost or doubled. -/
theorem PathLines.pairs_append (path : Text) (lines : List AddedLine) (entries : List PathLines) :
    ((append path lines entries).flatMap pairs).Perm
      (entries.flatMap pairs ++ lines.map (path, ·)) := by
  fun_induction append path lines entries with
  | case1 => simp [pairs]
  | case2 entry rest hpath =>
      -- The new lines stand behind those of the entry, in front of the other entries.
      subst hpath
      simp only [List.flatMap_cons, pairs, List.map_append, List.append_assoc]
      exact List.perm_append_comm.append_left _
  | case3 entry rest hne ih =>
      simp only [List.flatMap_cons, List.append_assoc]
      exact ih.append_left _

namespace FileDiff

variable {files : List FileDiff}

/-- Merging sections adds the lines of all of them. -/
theorem pairs_merged (files : List FileDiff) (entries : List PathLines) :
    ((files.foldl (fun entries file => PathLines.append file.path file.addedLines entries)
      entries).flatMap PathLines.pairs).Perm
      (entries.flatMap PathLines.pairs ++ files.flatMap pairs) := by
  induction files generalizing entries with
  | nil => simp
  | cons file files ih =>
      rw [List.foldl_cons, List.flatMap_cons, ← List.append_assoc]
      exact (ih _).trans ((PathLines.pairs_append _ _ _).append_right _)

theorem pairs_addedByFile (files : List FileDiff) :
    ((addedByFile files).flatMap PathLines.pairs).Perm (files.flatMap pairs) :=
  pairs_merged files []

end FileDiff

/-! ### The passes -/

/-- A rule looks at the lines of the paths that it admits. -/
theorem RuleConstraint.pairs_scope (rule : RuleConstraint) (entries : List PathLines) :
    (rule.scope entries).flatMap PathLines.pairs
      = (entries.flatMap PathLines.pairs).filter fun pair => rule.admits pair.1 := by
  have hentry : ∀ entry : PathLines, entry.pairs.filter (fun pair => rule.admits pair.1)
      = if rule.admits entry.path then entry.pairs else [] := by
    intro entry
    rw [PathLines.pairs, List.filter_map]
    by_cases hadmits : rule.admits entry.path = true
    · simp [hadmits, Function.comp_def]
    · simp [hadmits, Function.comp_def]
  induction entries with
  | nil => rfl
  | cons entry entries ih =>
      rw [List.flatMap_cons, List.filter_append, hentry, ← ih, scope, scope, List.filter_cons]
      cases hlines : entry.lines with
      | nil => simp [PathLines.pairs, hlines]
      | cons line lines =>
          by_cases hadmits : rule.admits entry.path = true
          · simp [hadmits]
          · simp [hadmits]

/-- A pass over items that passes over the parts of each is a pass over all parts. -/
theorem Outcome.flatten_mapM_flatMap {ε α β γ : Type} {f : α → List β}
    {g : β → Except ε (List γ)} (l : List α) :
    List.flatten <$> (l.mapM fun a => List.flatten <$> (f a).mapM g)
      = List.flatten <$> (l.flatMap f).mapM g := by
  induction l with
  | nil => rfl
  | cons a l ih =>
      rw [List.flatMap_cons, List.mapM_append, List.mapM_cons]
      cases (f a).mapM g with
      | error e => rfl
      | ok parts =>
          have hfront : ∀ rest : Except ε (List (List γ)),
              List.flatten <$> (do return parts.flatten :: (← rest))
                = (parts.flatten ++ ·) <$> (List.flatten <$> rest) := by
            intro rest
            cases rest with
            | error e => rfl
            | ok rest => rfl
          have hbehind : ∀ rest : Except ε (List (List γ)),
              List.flatten <$> (do return parts ++ (← rest))
                = (parts.flatten ++ ·) <$> (List.flatten <$> rest) := by
            intro rest
            cases rest with
            | error e => rfl
            | ok rest => exact congrArg Except.ok List.flatten_append
          exact (hfront _).trans (ih ▸ (hbehind _).symm)

/-- The boundaries look at the lines of the sections. -/
theorem Boundaries.findings_eq_pairs (boundaries : Boundaries) (rules : Option RuleSet)
    (files : List FileDiff) :
    boundaries.findings rules files
      = List.flatten <$> (files.flatMap FileDiff.pairs).mapM
          fun pair => boundaries.findingsOn rules pair.1 pair.2 := by
  rw [← Outcome.flatten_mapM_flatMap]
  simp only [FileDiff.pairs, List.mapM_map]
  rfl

namespace FileDiff

/-- The sections of a diff are merged per path, and nothing is lost or doubled. -/
structure MergedPerPath (files : List FileDiff) : Prop where
  /-- There is one entry for each changed path, in their order. -/
  paths : (addedByFile files).map PathLines.path = changedPaths files
  distinct : (changedPaths files).Nodup
  /-- The changed paths are those of the sections, each where it first occurs. -/
  firsts : changedPaths files = (files.map path).eraseDups
  /-- An entry has the lines of all sections of its path, in the order of the diff. -/
  lines : ∀ entry ∈ addedByFile files,
    entry.lines = (files.filter fun file => file.path = entry.path).flatMap addedLines
  /-- The lines under their paths are those of the sections, each as often. -/
  pairs : ((addedByFile files).flatMap PathLines.pairs).Perm (files.flatMap pairs)
  /-- A rule looks at those of them that its globs admit. -/
  ruled : ∀ rule : RuleConstraint, ((rule.scope (addedByFile files)).flatMap PathLines.pairs).Perm
    ((files.flatMap FileDiff.pairs).filter fun pair => rule.admits pair.1)
  /-- The boundaries look at all of them. -/
  bounded : ∀ (boundaries : Boundaries) (rules : Option RuleSet),
    boundaries.findings rules files = List.flatten <$> (files.flatMap FileDiff.pairs).mapM
      fun pair => boundaries.findingsOn rules pair.1 pair.2

/-- **Merging per path loses and doubles nothing**, so the rules, which look at paths, and the
boundaries, which look at sections, look at the same lines. -/
theorem mergedPerPath (files : List FileDiff) : MergedPerPath files where
  paths := by
    rw [addedByFile_eq, List.map_map]
    exact List.map_id _
  distinct := nodup_changedPaths files
  firsts := changedPaths_eq files
  lines entry hentry := by
    rw [addedByFile_eq] at hentry
    obtain ⟨path, -, rfl⟩ := List.mem_map.mp hentry
    rfl
  pairs := pairs_addedByFile files
  ruled rule := by
    rw [rule.pairs_scope]
    exact (pairs_addedByFile files).filter _
  bounded boundaries rules := boundaries.findings_eq_pairs rules files

end FileDiff

end PatchReview
