/-
The envelope of a review.

A review is written together with where it comes from: the run, the revisions, the
source of the diff, the time, and the version of the program.
-/
import PatchReview.Review.Basic

namespace PatchReview

/-- Where a review comes from. -/
structure RunInfo where
  runId : Text
  /-- When the review was written. -/
  generatedAt : Text
  /-- What the diff was read from. -/
  inputSource : Text
  base : Option Text := none
  head : Option Text := none
deriving DecidableEq, Repr

/-- The version of the program. -/
def programVersion : Text := "0.1.0"

/-- The version of the envelope. -/
def envelopeVersion : Int := 1

namespace RunInfo

/-- The origin of a review as it is written. -/
def toJson (info : RunInfo) : Json :=
  .object
    [("generated_at", .string info.generatedAt), ("base", Json.ofText? info.base),
      ("head", Json.ofText? info.head), ("input_source", .string info.inputSource),
      ("version", .string programVersion)]

end RunInfo

namespace Review

/-- A review in its envelope. -/
def envelope (review : Review) (info : RunInfo) : Json :=
  .object
    [("ai_review", .object
        [("version", .int envelopeVersion), ("run_id", .string info.runId),
          ("findings", Finding.listJson review.findings)]),
      ("llm_tasks", LlmTask.listJson review.tasks), ("meta", info.toJson)]

end Review

end PatchReview
