/-
Findings.

A finding says that a rule is broken at a place of a file.  Its severity is kept as it
is written and counts as one of the four severities.
-/
import PatchReview.Json.Basic
import PatchReview.Severity

namespace PatchReview

/-- A finding of a review. -/
structure Finding where
  rule : Text
  area : Text
  severity : Text
  file : Text
  /-- Where in the file: a line, or a hunk by its header. -/
  locator : Text
  /-- What was seen, the first line being the most telling. -/
  evidence : List Text
  why : Text
  suggestion : Text
  /-- What findings are told apart by. -/
  fingerprint : Text
deriving DecidableEq, Repr

namespace Finding

/-- The severity that a finding counts as. -/
def grade (f : Finding) : Severity := Severity.ofText f.severity

/-- A finding as it is written. -/
def toJson (f : Finding) : Json :=
  .object
    [("rule", .string f.rule), ("area", .string f.area), ("severity", .string f.severity),
      ("file", .string f.file), ("locator", .string f.locator),
      ("finding", Json.strings f.evidence), ("why", .string f.why),
      ("suggestion", .string f.suggestion), ("fingerprint", .string f.fingerprint)]

/-- Findings as they are written. -/
def listJson (findings : List Finding) : Json := .array (findings.map toJson)

end Finding

end PatchReview
