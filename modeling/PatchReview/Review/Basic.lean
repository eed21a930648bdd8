/-
Reviews.

A review has findings, and tasks: added lines that are left to a reviewer who reads
them with a language model.
-/
import PatchReview.Finding.Basic

namespace PatchReview

/-- An added line that is left to another reviewer. -/
structure LlmTask where
  /-- The rule to judge the line by. -/
  ruleId : Text
  file : Text
  locator : Text
  /-- The beginning of the line. -/
  snippet : Text
deriving DecidableEq, Repr

/-- What a review comes to. -/
structure Review where
  findings : List Finding := []
  tasks : List LlmTask := []
deriving DecidableEq, Repr

namespace LlmTask

/-- A snippet has at most so many code points. -/
def snippetLimit : Nat := 240

/-- A task as it is written. -/
def toJson (task : LlmTask) : Json :=
  .object
    [("rule_id", .string task.ruleId), ("file", .string task.file),
      ("locator", .string task.locator), ("snippet", .string task.snippet)]

/-- Tasks as they are written. -/
def listJson (tasks : List LlmTask) : Json := .array (tasks.map toJson)

end LlmTask

namespace Review

/-- One review after another. -/
def append (a b : Review) : Review :=
  { findings := a.findings ++ b.findings, tasks := a.tasks ++ b.tasks }

instance : Append Review := ⟨append⟩

end Review

end PatchReview
