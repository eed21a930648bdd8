/-
Diffs from git.

A diff is asked of `git diff` without colors and without external tools, for the working
tree or for a range of revisions.  What came of the run is given as data: git is missing,
or it exited with a code, its output and what it said about errors.  What a run does to
files is not told here; whoever runs git has to reckon with it, as the revisions are passed
on as they are and git may take them for options.
-/
import PatchReview.Number.Decimal
import PatchReview.Text.Blank

namespace PatchReview

/-- What came of running git. -/
inductive GitRun
  /-- There is no git. -/
  | missing
  /-- Git ran and exited. -/
  | exited (code : Int) (output : Text) (errors : Option Text)
deriving DecidableEq, Repr

/-- Why git brought no diff. -/
inductive GitError
  | missing
  /-- Git failed with these arguments; what it said is kept without the white space around it. -/
  | failed (arguments : List Text) (said : Text)
deriving DecidableEq, Repr

/-- The revisions to compare. -/
structure GitRange where
  base : Text
  head : Text
deriving DecidableEq, Repr

namespace Git

/-- So many lines of context are asked for unless others are wanted. -/
def defaultContext : Int := 3

/-- The arguments that ask for a diff, of the working tree if there is no range. -/
def arguments (context : Int) (range : Option GitRange) : Except NumeralError (List Text) := do
  let unified := "--unified=" ++ (← Decimal.write context)
  let fixed : List Text := ["diff", "--no-color", "--no-ext-diff"]
  let revisions : List Text :=
    match range with
    | none => []
    | some r => [r.base ++ ".." ++ r.head]
  return fixed ++ [unified] ++ revisions

/-- The command line with some arguments. -/
def commandLine (arguments : List Text) : List Text := "git" :: arguments

/-- The diff that a run brought. -/
def diff (arguments : List Text) : GitRun → Except GitError Text
  | .missing => .error .missing
  | .exited code output errors =>
    if code = 0 then .ok output else .error (.failed arguments (Text.trim (errors.getD [])))

end Git

namespace GitError

/-- What is said about an error. -/
def message : GitError → Text
  | missing => "git executable not found"
  | failed arguments [] => "git " ++ Text.join " " arguments ++ " failed"
  | failed _ said => said

end GitError

end PatchReview
