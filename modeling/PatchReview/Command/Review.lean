/-
The command `review`.

The command first settles what it was told: configuration, format, severity to fail on,
and where the diff comes from.  Only then does it read the diff and the policy.  What is
on the command line wins over what the configuration says.
-/
import PatchReview.Command.Basic
import PatchReview.Command.Environment
import PatchReview.Report.Envelope
import PatchReview.Report.Human
import PatchReview.Review.Run

namespace PatchReview

/-- Where a diff comes from. -/
inductive DiffSource
  | file (path : Path)
  | input
  /-- Git, with these arguments; they may name a range of revisions. -/
  | git (arguments : List Text) (ranged : Bool)
deriving DecidableEq, Repr

/-- A review whose settings are settled. -/
structure ReviewJob where
  config : Config
  format : OutputFormat
  failOn : Option FailOn
  source : DiffSource
deriving DecidableEq, Repr

namespace DiffSource

/-- The word for a source. -/
def label : DiffSource → Text
  | file path => "diff_file:" ++ path.text
  | input => "stdin"
  | git _ true => "git_range"
  | git _ false => "git_working_tree"

/-- The command lines of git that a source needs. -/
def gitCalls : DiffSource → List (List Text)
  | git arguments _ => [Git.commandLine arguments]
  | _ => []

/-- The diff from a source. -/
def diff (env : Environment) : DiffSource → Except CommandError Text
  | file path => env.diffText path
  | input => .ok env.input.unifyEndings
  | git arguments _ => (Git.diff arguments env.git).mapError fun e => .badValue e.message

/-- What is seen once the diff has been asked for. -/
def afterDiff (env : Environment) (repository : Path) : DiffSource → Environment
  | git arguments _ => env.afterGit repository arguments
  | _ => env

end DiffSource

namespace ReviewArguments

variable [Host]

/-- The output format: an empty word counts as none. -/
def outputFormat (a : ReviewArguments) (config : Config) : Except CommandError OutputFormat :=
  match a.format with
  | none | some [] => .ok config.format
  | some word => OutputFormat.ofArgument word

/-- The severity to fail on. -/
def severityToFailOn (a : ReviewArguments) (config : Config) :
    Except CommandError (Option FailOn) :=
  match a.failOn with
  | none => .ok config.failOn
  | some word =>
    match FailOn.ofText? word with
    | some choice => .ok (some choice)
    | none =>
      .error (.badValueFor "--fail-on" ("--fail-on must be one of: " ++ FailOn.choices))

/-- The range of revisions, of which both or none have to be given. -/
def range (a : ReviewArguments) : Except CommandError (Option GitRange) :=
  match a.base, a.head with
  | some base, some head => .ok (some { base, head })
  | none, none => .ok none
  | _, _ => .error (.badValue "Provide both --base and --head together.")

/-- Where the diff comes from. -/
def source (a : ReviewArguments) (range : Option GitRange) : Except CommandError DiffSource :=
  match a.diffFile with
  | some path => .ok (.file path)
  | none =>
    if a.fromInput then .ok .input
    else do
      let context := a.context.getD Git.defaultContext
      let arguments ← (Git.arguments context range).mapError .ofNumeral
      return .git arguments range.isSome

/-- Settles what the command was told. -/
def job (a : ReviewArguments) (env : Environment) : Except CommandError ReviewJob := do
  let config ← env.configuration a.repository a.config
  let format ← a.outputFormat config
  let failOn ← a.severityToFailOn config
  if a.diffFile.isSome && a.fromInput then
    throw (.badValue "Use either --diff-file or --stdin, not both.")
  let range ← a.range
  let source ← a.source range
  return { config, format, failOn, source }

/-- The first findings of a review, if their number is limited. -/
def limited (limit : Option Int) (review : Review) : Review :=
  match limit with
  | none => review
  | some n =>
    if 0 < n then { review with findings := review.findings.take n.toNat } else review

/-- The review, with no more findings than are wanted. -/
def review (a : ReviewArguments) (job : ReviewJob) (env : Environment) :
    Except CommandError Review := do
  let diff ← job.source.diff env
  let env := job.source.afterDiff env a.repository
  let rules ←
    env.optionalDocument "Rules" (env.policyPath a.repository a.rules job.config.rules)
  let boundaries ←
    env.optionalDocument "Boundaries"
      (env.policyPath a.repository a.boundaries job.config.boundaries)
  let review ← (Review.ofDiff diff rules boundaries job.config.options).mapError .review
  return limited (a.maxFindings.or job.config.maxFindings) review

/-- Where the review comes from. -/
def runInfo (a : ReviewArguments) (job : ReviewJob) (env : Environment) : RunInfo :=
  { runId := env.runId, generatedAt := env.time, inputSource := job.source.label, base := a.base
    head := a.head }

/-- The file that the review is saved in. -/
def save (a : ReviewArguments) (envelope : Json) : Except CommandError (Option (Path × Text)) :=
  match a.out with
  | none => .ok none
  | some path => do
    let text ← envelope.printed .indented
    return some (path, text)

/-- The exit code of a review. -/
def exitCode (review : Review) (failOn : Option FailOn) : Except CommandError Nat :=
  (ExitCode.of ((Finding.gravest review.findings).map Severity.name)
    (failOn.map FailOn.name)).mapError .severity

/-- The reply, once everything is settled. -/
def replyTo (a : ReviewArguments) (job : ReviewJob) (env : Environment) :
    Except CommandError Reply := do
  let review ← a.review job env
  let envelope := review.envelope (a.runInfo job env)
  let save ← a.save envelope
  let text ←
    match job.format with
    | .json => envelope.printed .spaced
    | .human => .ok review.human
  return { text, exitCode := ← exitCode review job.failOn, save }

/-- The reply. -/
def reply (a : ReviewArguments) (env : Environment) : Except CommandError Reply := do
  let job ← a.job env
  a.replyTo job env

/-- The command lines of git that are run: none if the settings cannot be settled. -/
def gitCalls (a : ReviewArguments) (env : Environment) : List (List Text) :=
  match a.job env with
  | .ok job => job.source.gitCalls
  | .error _ => []

/-- What is seen once git has run, if it is run. -/
def afterGit (a : ReviewArguments) (env : Environment) : Environment :=
  match a.job env with
  | .ok job => job.source.afterDiff env a.repository
  | .error _ => env

end ReviewArguments

end PatchReview
