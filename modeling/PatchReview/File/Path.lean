/-
Paths.

A path is relative or starts at a root, and names one part after the other.  Repeated
slashes and parts that are a single dot say nothing and are dropped on reading; `..`
stays, since only a walk or an explicit resolution knows what it leads to.  Two slashes
at the beginning, and no more than two, are a root of their own.
-/
import PatchReview.Text.CodePoint

namespace PatchReview

/-- Where a path starts. -/
inductive PathStart
  | workingFolder
  | root
  | doubleRoot
deriving DecidableEq, Repr

/-- A path. -/
structure Path where
  start : PathStart := .workingFolder
  parts : List Text := []
deriving DecidableEq, Repr

namespace PathStart

/-- How a start is written. -/
def text : PathStart → Text
  | workingFolder => []
  | root => "/"
  | doubleRoot => "//"

/-- The start of a path that begins with so many slashes. -/
def ofSlashes : Nat → PathStart
  | 0 => workingFolder
  | 2 => doubleRoot
  | _ => root

end PathStart

namespace Path

/-- The part that leads to the folder above. -/
def up : Text := ".."

/-- Whether a part names anything. -/
def isPart (part : Text) : Bool := part != [] && part != Text.ofString "."

/-- The path that a text denotes. -/
def ofText (t : Text) : Path :=
  let slashes := t.takeWhile (· == CodePoint.ofChar '/')
  { start := .ofSlashes slashes.length, parts := (Text.splitOn '/' t).filter isPart }

/-- A path as it is written; the path without parts is a dot. -/
def text (p : Path) : Text :=
  if p.start = .workingFolder ∧ p.parts = [] then "."
  else p.start.text ++ Text.join "/" p.parts

/-- Whether a path does not depend on the working folder. -/
def isAbsolute (p : Path) : Bool := p.start ≠ .workingFolder

/-- A path seen from a folder; an absolute path stays as it is. -/
def within (folder p : Path) : Path :=
  if p.isAbsolute then p else { folder with parts := folder.parts ++ p.parts }

/-- The file or folder of a name in a folder. -/
def child (folder : Path) (name : Text) : Path := { folder with parts := folder.parts ++ [name] }

/-- The last part of a path. -/
def name (p : Path) : Text := p.parts.getLast?.getD []

/-- The path without its last part. -/
def parent (p : Path) : Path := { p with parts := p.parts.dropLast }

/-- Follows parts from a place below the root; going up from the root leads nowhere. -/
def climb (place : List Text) : List Text → List Text
  | [] => place
  | part :: rest => if part = up then climb place.dropLast rest else climb (place ++ [part]) rest

/-- The absolute path without `..` that a path leads to from a working folder. -/
def resolve (workingFolder p : Path) : Path :=
  { start := .root, parts := climb [] (within workingFolder p).parts }

end Path

end PatchReview
