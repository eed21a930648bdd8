/-
A review is local to each path.

What a review says of a path depends on the added lines of that path alone.  The two
passes look at a diff in different ways, the rules at paths whose sections are merged and
the boundaries at sections one by one, but both look at one path at a time: a finding or
a task carries the path that it was found in.  The cap for a file counts the findings of
that file, so it may be counted for each file alone; only the total cap could let one
file take away from another, which is why it is left out here.

`Review.ofPath` says what a review comes to at a path, from the lines of the path.  That two
diffs with the same lines there have the same findings and tasks there follows at once.
-/
import Mathlib.Data.List.Nodup
import PatchReview.Proofs.Review.BoundaryPart

namespace PatchReview

/-! ### Lists that carry their keys -/

/-- If all that comes of an item carries the key of the item, what carries a key comes of the items
with that key. -/
theorem filter_flatMap_of_key {α β κ : Type} [DecidableEq κ] {key : α → κ} {label : β → κ}
    {f : α → List β} (h : ∀ a, ∀ b ∈ f a, label b = key a) (l : List α) (k : κ) :
    (l.flatMap f).filter (fun b => label b = k) = (l.filter fun a => key a = k).flatMap f := by
  induction l with
  | nil => rfl
  | cons a l ih =>
      rw [List.flatMap_cons, List.filter_append, ih]
      by_cases hkey : key a = k
      · have hall : ∀ b ∈ f a, decide (label b = k) = true := by
          intro b hb
          simp [h a b hb, hkey]
        rw [List.filter_eq_self.mpr hall, List.filter_cons_of_pos (by simpa using hkey),
          List.flatMap_cons]
      · have hnone : ∀ b ∈ f a, ¬decide (label b = k) = true := by
          intro b hb
          simp [h a b hb, hkey]
        rw [List.filter_eq_nil_iff.mpr hnone, List.filter_cons_of_neg (by simpa using hkey),
          List.nil_append]

namespace FileDiff

variable {files : List FileDiff} {path : Text}

/-- The added lines of a path; a path that is not in the diff has none. -/
def addedTo (path : Text) (files : List FileDiff) : List AddedLine :=
  ((PathLines.find? path (addedByFile files)).map PathLines.lines).getD []

theorem linesOf_of_not_mem (h : path ∉ changedPaths files) : linesOf path files = [] := by
  rw [linesOf, List.flatMap_eq_nil_iff]
  intro file hfile
  rw [List.mem_filter, decide_eq_true_eq] at hfile
  exact absurd (mem_changedPaths.mpr ⟨file, hfile.1, hfile.2⟩) h

/-- **The added lines of a path are those of its sections.** -/
theorem addedTo_eq (path : Text) (files : List FileDiff) :
    addedTo path files = linesOf path files := by
  rw [addedTo]
  cases hfound : PathLines.find? path (addedByFile files) with
  | none =>
      have hnot : path ∉ changedPaths files := by
        intro hmem
        rw [PathLines.find?, List.find?_eq_none, addedByFile_eq] at hfound
        exact hfound (entryOf files path) (List.mem_map_of_mem hmem) (by simp [entryOf])
      rw [linesOf_of_not_mem hnot]
      rfl
  | some entry =>
      have hmem := List.mem_of_find?_eq_some hfound
      have hpath : entry.path = path := by simpa using List.find?_some hfound
      rw [addedByFile_eq] at hmem
      obtain ⟨p, -, rfl⟩ := List.mem_map.mp hmem
      rw [← hpath]
      rfl

/-- What comes of the entry of a path comes of its lines, if nothing comes of no lines. -/
theorem flatMap_entries {β : Type} {f : PathLines → List β} (hf : f ⟨path, []⟩ = []) :
    ((addedByFile files).filter fun entry => entry.path = path).flatMap f
      = f ⟨path, linesOf path files⟩ := by
  have hentries : (addedByFile files).filter (fun entry => entry.path = path)
      = ((changedPaths files).filter fun p => p = path).map (entryOf files) := by
    rw [addedByFile_eq, List.filter_map]
    rfl
  rw [hentries, List.filter_eq]
  by_cases hmem : path ∈ changedPaths files
  · rw [List.count_eq_one_of_mem (nodup_changedPaths files) hmem]
    simp [entryOf]
  · rw [List.count_eq_zero_of_not_mem hmem, linesOf_of_not_mem hmem, hf]
    rfl

end FileDiff

/-! ### Caps -/

namespace ReviewOptions

variable {options : ReviewOptions}

/-- Without a total cap a finding is dropped only if its own file is full. -/
theorem trimAfter_cons (htotal : options.capTotal.getD 0 = 0) (kept : List Text) (f : Finding)
    (fs : List Finding) :
    options.trimAfter kept (f :: fs)
      = if reached options.capPerFile (kept.count f.file) then options.trimAfter kept fs
        else f :: options.trimAfter (f.file :: kept) fs := by
  rw [trimAfter, reached_of_getD_eq_zero htotal, if_neg (by simp)]

/-- Whether a finding is kept depends on how many of its own file have been kept. -/
theorem trimAfter_filter_file (htotal : options.capTotal.getD 0 = 0) (path : Text)
    (fs : List Finding) : ∀ kept kept' : List Text, kept.count path = kept'.count path →
      (options.trimAfter kept fs).filter (fun f => f.file = path)
        = options.trimAfter kept' (fs.filter fun f => f.file = path) := by
  -- The two passes keep different findings, so their counts agree at `path` alone.
  induction fs with
  | nil => intro kept kept' _; rfl
  | cons f fs ih =>
      intro kept kept' hcount
      rw [trimAfter_cons htotal]
      by_cases hfile : f.file = path
      · have hfull : reached options.capPerFile (kept.count f.file)
            = reached options.capPerFile (kept'.count f.file) := by rw [hfile, hcount]
        rw [List.filter_cons_of_pos (by simpa using hfile), trimAfter_cons htotal, hfull]
        split
        · exact ih kept kept' hcount
        · rw [List.filter_cons_of_pos (by simpa using hfile),
            ih (f.file :: kept) (f.file :: kept') (by simp [hfile, hcount])]
      · rw [List.filter_cons_of_neg (by simpa using hfile)]
        split
        · exact ih kept kept' hcount
        · rw [List.filter_cons_of_neg (by simpa using hfile),
            ih (f.file :: kept) kept' ((List.count_cons_of_ne hfile).trans hcount)]

/-- **Without a total cap every file is trimmed for itself.** -/
theorem trim_filter_file (htotal : options.capTotal.getD 0 = 0) (path : Text) (fs : List Finding) :
    (options.trim fs).filter (fun f => f.file = path)
      = options.trim (fs.filter fun f => f.file = path) :=
  trimAfter_filter_file htotal path fs [] [] rfl

end ReviewOptions

/-! ### The rules at a path -/

namespace RulePass

variable {options : ReviewOptions} {files : List FileDiff} {path : Text}

/-- Each entry has its findings for itself. -/
theorem findingsOf_eq_flatMap [Host] (options : ReviewOptions) (entries : List PathLines)
    (rule : RuleConstraint) :
    findingsOf options entries rule
      = entries.flatMap fun entry => findingsOf options [entry] rule := by
  induction entries with
  | nil => rfl
  | cons entry entries ih =>
      rw [List.flatMap_cons, ← ih]
      simp only [findingsOf]
      by_cases h : (inScope rule entry && !exempted rule entry) = true
      · simp [h]
      · simp [h]

theorem tasksOf_eq_flatMap (entries : List PathLines) (rule : RuleConstraint) :
    tasksOf entries rule = entries.flatMap fun entry => tasksOf [entry] rule := by
  induction entries with
  | nil => rfl
  | cons entry entries ih =>
      rw [List.flatMap_cons, ← ih]
      simp only [tasksOf]
      by_cases h : inScope rule entry = true
      · simp [h]
      · simp [h]

/-- The findings at a path are those on its lines. -/
theorem findingsOf_filter_file [Host] (rule : RuleConstraint) :
    (findingsOf options (FileDiff.addedByFile files) rule).filter (fun f => f.file = path)
      = findingsOf options [⟨path, FileDiff.addedTo path files⟩] rule := by
  have hfile : ∀ entry : PathLines, ∀ f ∈ findingsOf options [entry] rule,
      f.file = entry.path := by
    intro entry f hf
    obtain ⟨e, he, hf⟩ := List.mem_flatMap.mp hf
    obtain ⟨line, -, rfl⟩ := List.mem_map.mp hf
    rw [← List.mem_singleton.mp (List.mem_filter.mp he).1]
    rfl
  rw [findingsOf_eq_flatMap, filter_flatMap_of_key hfile, FileDiff.flatMap_entries,
    FileDiff.addedTo_eq]
  simp [findingsOf, inScope]

theorem tasksOf_filter_file (rule : RuleConstraint) :
    (tasksOf (FileDiff.addedByFile files) rule).filter (fun task => task.file = path)
      = tasksOf [⟨path, FileDiff.addedTo path files⟩] rule := by
  have hfile : ∀ entry : PathLines, ∀ task ∈ tasksOf [entry] rule, task.file = entry.path := by
    intro entry task htask
    obtain ⟨e, he, htask⟩ := List.mem_flatMap.mp htask
    obtain ⟨line, -, rfl⟩ := List.mem_map.mp htask
    rw [← List.mem_singleton.mp (List.mem_filter.mp he).1]
    rfl
  rw [tasksOf_eq_flatMap, filter_flatMap_of_key hfile, FileDiff.flatMap_entries,
    FileDiff.addedTo_eq]
  simp [tasksOf, inScope]

end RulePass

/-! ### The boundaries at a path -/

namespace BoundaryPass

/-- The findings of the boundaries on a line of a path. -/
def findingsAt (policy : Option Boundaries) (rules : List Rule) (path : Text) (line : AddedLine) :
    List Finding :=
  (Import.specifier? line.text).toList.flatMap fun specifier =>
    ((policy.elim [] Boundaries.forbidden).filter (forbidden path specifier)).map
      (gradedFinding rules path specifier line)

/-- The boundary part at a path has the findings on its lines. -/
theorem part_filter_file (policy : Option Boundaries) (rules : List Rule) (files : List FileDiff)
    (path : Text) :
    (part policy rules files).filter (fun f => f.file = path)
      = (FileDiff.addedTo path files).flatMap (findingsAt policy rules path) := by
  have hpart : part policy rules files
      = files.flatMap fun file => file.addedLines.flatMap (findingsAt policy rules file.path) := rfl
  have hfile : ∀ file : FileDiff,
      ∀ f ∈ file.addedLines.flatMap (findingsAt policy rules file.path), f.file = file.path := by
    intro file f hf
    obtain ⟨line, -, hf⟩ := List.mem_flatMap.mp hf
    obtain ⟨specifier, -, hf⟩ := List.mem_flatMap.mp hf
    obtain ⟨boundary, -, rfl⟩ := List.mem_map.mp hf
    rfl
  have hsections : ∀ file ∈ files.filter fun file => file.path = path,
      file.addedLines.flatMap (findingsAt policy rules file.path)
        = file.addedLines.flatMap (findingsAt policy rules path) := by
    intro file hfile
    rw [List.mem_filter, decide_eq_true_eq] at hfile
    rw [hfile.2]
  rw [hpart, filter_flatMap_of_key hfile, List.flatMap_congr hsections, FileDiff.addedTo_eq,
    FileDiff.linesOf, List.flatMap_assoc]

end BoundaryPass

/-! ### A whole review at a path -/

namespace Review

/-- What a review says of a path. -/
def about (review : Review) (path : Text) : Review :=
  { findings := review.findings.filter fun f => f.file = path
    tasks := review.tasks.filter fun task => task.file = path }

/-- **What a review comes to at a path with some added lines.** -/
def ofPath [Host] (options : ReviewOptions) (set : Option RuleSet) (policy : Option Boundaries)
    (path : Text) (lines : List AddedLine) : Review :=
  let rules := RuleConstraint.ofRules set
  { findings := RulePass.trimmed options [⟨path, lines⟩] rules
      ++ lines.flatMap (BoundaryPass.findingsAt policy (RuleSet.loaded set) path)
    tasks := (RulePass.deferring rules).flatMap (RulePass.tasksOf [⟨path, lines⟩]) }

variable {diff : Text} {document boundaries : Json} {options : ReviewOptions} {review : Review}

/-- **A review says of a path what the lines of the path come to.** -/
theorem about_enumerated [Host] (htotal : options.capTotal.getD 0 = 0) (set : Option RuleSet)
    (policy : Option Boundaries) (files : List FileDiff) (path : Text) :
    (enumerated options set policy files).about path
      = ofPath options set policy path (FileDiff.addedTo path files) := by
  have hruled : (RulePass.trimmed options (FileDiff.addedByFile files)
        (RuleConstraint.ofRules set)).filter (fun f => f.file = path)
      = RulePass.trimmed options [⟨path, FileDiff.addedTo path files⟩]
          (RuleConstraint.ofRules set) := by
    rw [RulePass.trimmed, List.filter_flatMap]
    refine List.flatMap_congr fun rule _ => ?_
    rw [ReviewOptions.trim_filter_file htotal, RulePass.findingsOf_filter_file]
  have htasks : ((RulePass.deferring (RuleConstraint.ofRules set)).flatMap
        (RulePass.tasksOf (FileDiff.addedByFile files))).filter (fun task => task.file = path)
      = (RulePass.deferring (RuleConstraint.ofRules set)).flatMap
          (RulePass.tasksOf [⟨path, FileDiff.addedTo path files⟩]) := by
    rw [List.filter_flatMap]
    exact List.flatMap_congr fun rule _ => RulePass.tasksOf_filter_file rule
  rw [about, enumerated, List.filter_append, hruled, htasks, BoundaryPass.part_filter_file]
  rfl

/-- **Review is local to a file.**  Without a total cap, two diffs that add the same lines to a path
have the same findings and the same tasks there, each in the same order, whatever else they change
and however the lines of the path are spread over hunks and sections. -/
theorem ofDiff_local [Host] {diff' : Text} {review' : Review} {files files' : List FileDiff}
    {path : Text} (htotal : options.capTotal.getD 0 = 0) (hfiles : FileDiff.parse diff = .ok files)
    (hfiles' : FileDiff.parse diff' = .ok files')
    (hlines : FileDiff.addedTo path files = FileDiff.addedTo path files')
    (h : ofDiff diff document boundaries options = .ok review)
    (h' : ofDiff diff' document boundaries options = .ok review') :
    review.about path = review'.about path := by
  obtain ⟨-, set, policy, -, hset, hpolicy⟩ := exists_reads h
  rw [eq_enumerated hfiles hset hpolicy h, eq_enumerated hfiles' hset hpolicy h',
    about_enumerated htotal, about_enumerated htotal, hlines]

/-- The lines of `a.ts` in two sections of it with another file between them. -/
def scatteredDiff : Text :=
  "+++ b/a.ts\n@@ -1 +1 @@\n+TODO x\n+++ b/b.ts\n@@ -1 +1 @@\n+TODO y\n+++ b/a.ts\n"
    ++ "@@ -1 +2 @@\n+import 'db'"

theorem ofDiff_local_scattered :
    ∃ files files' review review',
      FileDiff.parse RulePass.mixedDiff = .ok files ∧ FileDiff.parse scatteredDiff = .ok files' ∧
      FileDiff.addedTo "a.ts" files = FileDiff.addedTo "a.ts" files' ∧
      ofDiff RulePass.mixedDiff RulePass.mixedRules mixedBoundaries { capPerFile := some 1 }
        = .ok review ∧
      ofDiff scatteredDiff RulePass.mixedRules mixedBoundaries { capPerFile := some 1 }
        = .ok review' ∧
      review.findings.length = 2 ∧ review'.findings.length = 3 ∧
      review.about "a.ts" = review'.about "a.ts" := by
  have hcount : ((ofDiff RulePass.mixedDiff RulePass.mixedRules mixedBoundaries
      { capPerFile := some 1 }).toOption.map fun review => review.findings.length) = some 2 := by
    decide +kernel
  have hcount' : ((ofDiff scatteredDiff RulePass.mixedRules mixedBoundaries
      { capPerFile := some 1 }).toOption.map fun review => review.findings.length) = some 3 := by
    decide +kernel
  have hlines : ((FileDiff.parse RulePass.mixedDiff).toOption.map (FileDiff.addedTo "a.ts"))
      = some [⟨1, "TODO x"⟩, ⟨2, "import 'db'"⟩] := by decide +kernel
  have hlines' : ((FileDiff.parse scatteredDiff).toOption.map (FileDiff.addedTo "a.ts"))
      = some [⟨1, "TODO x"⟩, ⟨2, "import 'db'"⟩] := by decide +kernel
  obtain ⟨review, h, hreview⟩ := Outcome.exists_ok_of_toOption hcount
  obtain ⟨review', h', hreview'⟩ := Outcome.exists_ok_of_toOption hcount'
  obtain ⟨files, hfiles, hadded⟩ := Outcome.exists_ok_of_toOption hlines
  obtain ⟨files', hfiles', hadded'⟩ := Outcome.exists_ok_of_toOption hlines'
  have hsame := hadded.trans hadded'.symm
  exact ⟨files, files', review, review', hfiles, hfiles', hsame, h, h', hreview, hreview',
    ofDiff_local rfl hfiles hfiles' hsame h h'⟩

end Review

end PatchReview
