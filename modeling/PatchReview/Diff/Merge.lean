/-
The added lines of a diff by path.

A path may have several sections in one diff.  `changedPaths` names each path once, in
the order of first sections, and `addedByFile` gives each path the added lines of all
its sections.
-/
import PatchReview.Diff.Basic

namespace PatchReview

/-- A path with added lines. -/
structure PathLines where
  path : Text
  lines : List AddedLine
deriving DecidableEq, Repr

namespace PathLines

/-- Adds lines to the entry of a path, or a new entry at the end. -/
def append (path : Text) (lines : List AddedLine) : List PathLines → List PathLines
  | [] => [⟨path, lines⟩]
  | entry :: rest =>
    if entry.path = path then { entry with lines := entry.lines ++ lines } :: rest
    else entry :: append path lines rest

/-- The entry of a path. -/
def find? (path : Text) (entries : List PathLines) : Option PathLines :=
  entries.find? fun entry => entry.path = path

/-- The texts of the lines. -/
def texts (entry : PathLines) : List Text := entry.lines.map AddedLine.text

end PathLines

namespace FileDiff

/-- The paths of a diff, each at its first section. -/
def changedPaths (files : List FileDiff) : List Text :=
  (files.foldl (fun seen file => if file.path ∈ seen then seen else file.path :: seen) []).reverse

/-- The added lines of each path, the sections of a path merged. -/
def addedByFile (files : List FileDiff) : List PathLines :=
  files.foldl (fun entries file => PathLines.append file.path file.addedLines entries) []

end FileDiff

end PatchReview
