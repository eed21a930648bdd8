/-
Configurations.

A configuration sets how reviews are reported, when a run fails, where the policy is
found, and the options of the review.  What it leaves out has a default.
-/
import PatchReview.File.Path
import PatchReview.Json.Basic
import PatchReview.Review.Options

namespace PatchReview

/-- How output is written. -/
inductive OutputFormat
  | human
  | json
deriving DecidableEq, Repr

/-- The severity that makes a run fail. -/
inductive FailOn
  | never
  | major
  | critical
deriving DecidableEq, Repr

namespace OutputFormat

/-- The word for a format. -/
def name : OutputFormat → Text
  | human => "human"
  | json => "json"

/-- The format of a word, in any letter case. -/
def ofText? (t : Text) : Option OutputFormat :=
  [human, json].find? fun format => format.name == t.asciiLower

end OutputFormat

namespace FailOn

/-- All choices, by their words. -/
def all : List FailOn := [critical, major, never]

/-- The word for a choice. -/
def name : FailOn → Text
  | never => "none"
  | major => "major"
  | critical => "critical"

/-- The choice of a word, in any letter case. -/
def ofText? (t : Text) : Option FailOn := all.find? fun choice => choice.name == t.asciiLower

/-- The choices as they are listed. -/
def choices : Text := Text.commaList (all.map name)

end FailOn

/-- A configuration. -/
structure Config where
  format : OutputFormat := .human
  failOn : Option FailOn := none
  /-- No more findings are reported. -/
  maxFindings : Option Int := none
  /-- Where the rules are, seen from the repository. -/
  rules : Option Text := none
  /-- Where the boundaries are, seen from the repository. -/
  boundaries : Option Text := none
  options : ReviewOptions := {}
  /-- The file that the configuration was read from. -/
  source : Option Path := none
deriving DecidableEq, Repr

namespace Config

/-- A number that may be missing. -/
def numberJson : Option Int → Json
  | none => .null
  | some n => .int n

/-- The options of a review as they are written. -/
def optionsJson (options : ReviewOptions) : Json :=
  .object
    [("strict_signals", .bool options.strictSignals),
      ("cap_per_rule_per_file", numberJson options.capPerFile),
      ("cap_per_rule_total", numberJson options.capTotal)]

/-- A configuration as it is written. -/
def toJson (config : Config) : Json :=
  .object
    [("format", .string config.format.name), ("fail_on", Json.ofText? (config.failOn.map FailOn.name)),
      ("max_findings", numberJson config.maxFindings), ("rules", Json.ofText? config.rules),
      ("boundaries", Json.ofText? config.boundaries), ("engine", optionsJson config.options),
      ("source", Json.ofText? (config.source.map Path.text))]

/-- Where a policy file of a configuration is. -/
def policyPath (workingFolder repository : Path) (file : Text) : Path :=
  (Path.resolve workingFolder repository).within (Path.ofText file)

/-- A configuration to start with. -/
def starter : Text :=
  Text.join "\n"
    ["format = \"json\"", "fail_on = \"major\"", "max_findings = 50",
      "rules = \"docs/rules/rules.json\"", "boundaries = \"docs/rules/boundaries.json\"", "",
      "[engine]", "strict_signals = false", "# cap_per_rule_per_file = 3",
      "# cap_per_rule_total = 50", ""]

end Config

end PatchReview
