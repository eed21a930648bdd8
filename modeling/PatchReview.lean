import PatchReview.Boundary.Basic
import PatchReview.Boundary.Import
import PatchReview.Boundary.Load
import PatchReview.Boundary.Specifier
import PatchReview.Command.Basic
import PatchReview.Command.Environment
import PatchReview.Command.Findings
import PatchReview.Command.Lookup
import PatchReview.Command.Option
import PatchReview.Command.Policy
import PatchReview.Command.Review
import PatchReview.Command.Run
import PatchReview.Command.Setup
import PatchReview.Command.Usage
import PatchReview.Config.Basic
import PatchReview.Config.Load
import PatchReview.Config.Table
import PatchReview.Diff.Assembly
import PatchReview.Diff.Basic
import PatchReview.Diff.Header
import PatchReview.Diff.Merge
import PatchReview.Diff.Step
import PatchReview.Digest.Sha1
import PatchReview.File.Content
import PatchReview.File.Document
import PatchReview.File.Path
import PatchReview.File.Tree
import PatchReview.Finding.Basic
import PatchReview.Finding.Compare
import PatchReview.Finding.Evidence
import PatchReview.Finding.Fingerprint
import PatchReview.Finding.Group
import PatchReview.Finding.Normalize
import PatchReview.Git
import PatchReview.Glob.Basic
import PatchReview.Glob.Match
import PatchReview.Json.Basic
import PatchReview.Json.Display
import PatchReview.Json.Printer
import PatchReview.Json.Reader
import PatchReview.Main
import PatchReview.Number.Binary64
import PatchReview.Number.Decimal
import PatchReview.Number.Shortest
import PatchReview.Proofs.Boundary.Comment
import PatchReview.Proofs.Boundary.Import
import PatchReview.Proofs.Boundary.ImportLine
import PatchReview.Proofs.Boundary.Layer
import PatchReview.Proofs.Boundary.Load
import PatchReview.Proofs.Boundary.Relative
import PatchReview.Proofs.Boundary.Specifier
import PatchReview.Proofs.Command.Frame
import PatchReview.Proofs.Command.Git
import PatchReview.Proofs.Command.Inputs
import PatchReview.Proofs.Command.Policy
import PatchReview.Proofs.Command.Refusal
import PatchReview.Proofs.Command.Review
import PatchReview.Proofs.Config.Precedence
import PatchReview.Proofs.Config.Table
import PatchReview.Proofs.Diff.Assembly
import PatchReview.Proofs.Diff.Body
import PatchReview.Proofs.Diff.Concat
import PatchReview.Proofs.Diff.Endings
import PatchReview.Proofs.Diff.Merge
import PatchReview.Proofs.Diff.Numbering
import PatchReview.Proofs.Diff.Numerals
import PatchReview.Proofs.Diff.Rendering
import PatchReview.Proofs.Diff.Steps
import PatchReview.Proofs.Diff.Written
import PatchReview.Proofs.File.Tree
import PatchReview.Proofs.Finding.Canonical
import PatchReview.Proofs.Finding.Compare
import PatchReview.Proofs.Finding.Evidence
import PatchReview.Proofs.Finding.Fingerprint
import PatchReview.Proofs.Finding.Normal
import PatchReview.Proofs.Finding.Record
import PatchReview.Proofs.Finding.Settled
import PatchReview.Proofs.Glob.Class
import PatchReview.Proofs.Glob.Doubled
import PatchReview.Proofs.Glob.Match
import PatchReview.Proofs.Glob.Segment
import PatchReview.Proofs.Json.Edit
import PatchReview.Proofs.Json.Literal
import PatchReview.Proofs.Json.Printer
import PatchReview.Proofs.Number.Decimal
import PatchReview.Proofs.Outcome
import PatchReview.Proofs.Regex.Parser
import PatchReview.Proofs.Report.ExitCode
import PatchReview.Proofs.Report.Human
import PatchReview.Proofs.Review.Anchor
import PatchReview.Proofs.Review.BoundaryPart
import PatchReview.Proofs.Review.BoundaryPass
import PatchReview.Proofs.Review.Caps
import PatchReview.Proofs.Review.Envelope
import PatchReview.Proofs.Review.Gate
import PatchReview.Proofs.Review.Identity
import PatchReview.Proofs.Review.Inert
import PatchReview.Proofs.Review.Locality
import PatchReview.Proofs.Review.Monotone
import PatchReview.Proofs.Review.Parts
import PatchReview.Proofs.Review.Passes
import PatchReview.Proofs.Review.Regrading
import PatchReview.Proofs.Review.Returns
import PatchReview.Proofs.Review.RulePass
import PatchReview.Proofs.Review.Run
import PatchReview.Proofs.Review.StrictSignals
import PatchReview.Proofs.Review.Support
import PatchReview.Proofs.Rule.Edit
import PatchReview.Proofs.Rule.Load
import PatchReview.Proofs.Rule.Prune
import PatchReview.Proofs.Rule.Valid
import PatchReview.Proofs.Signal
import PatchReview.Proofs.Sorting
import PatchReview.Proofs.Text
import PatchReview.Proofs.Text.Lower
import PatchReview.Proofs.Text.Order
import PatchReview.Proofs.Text.Utf8
import PatchReview.Proofs.Toml.Text
import PatchReview.Regex.Basic
import PatchReview.Regex.Class
import PatchReview.Regex.Host
import PatchReview.Regex.Match
import PatchReview.Regex.Parser
import PatchReview.Regex.Scan
import PatchReview.Report.Envelope
import PatchReview.Report.ExitCode
import PatchReview.Report.Human
import PatchReview.Report.Style
import PatchReview.Report.Timestamp
import PatchReview.Review.Basic
import PatchReview.Review.BoundaryPass
import PatchReview.Review.Gate
import PatchReview.Review.Log
import PatchReview.Review.Options
import PatchReview.Review.RulePass
import PatchReview.Review.Run
import PatchReview.Rule.Basic
import PatchReview.Rule.Constraint
import PatchReview.Rule.Load
import PatchReview.Rule.Validate
import PatchReview.Severity
import PatchReview.Signal
import PatchReview.Text.Blank
import PatchReview.Text.Case
import PatchReview.Text.CodePoint
import PatchReview.Text.Digit
import PatchReview.Text.Hex
import PatchReview.Text.Identifier
import PatchReview.Text.Lines
import PatchReview.Text.Lower
import PatchReview.Text.Order
import PatchReview.Text.Printable
import PatchReview.Text.Quoted
import PatchReview.Text.Ranges
import PatchReview.Text.Similar
import PatchReview.Text.Utf8
import PatchReview.Text.Word
import PatchReview.Toml.Basic
import PatchReview.Toml.Document
import PatchReview.Toml.Reader
import PatchReview.Toml.Scalar
