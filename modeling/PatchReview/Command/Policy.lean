/-
The commands that show a policy: `rules`, `rules-validate` and `boundaries`.
-/
import PatchReview.Boundary.Load
import PatchReview.Command.Basic
import PatchReview.Command.Environment
import PatchReview.Rule.Constraint
import PatchReview.Rule.Validate

namespace PatchReview

namespace RuleConstraint

/-- Whether a rule is applied. -/
def isSupported (rule : RuleConstraint) : Bool := rule.trigger.kind?.isSome

/-- A rule as it is listed in JSON. -/
def listing (rule : RuleConstraint) : Json :=
  .object
    [("id", .string rule.id), ("area", .string rule.area), ("severity", .string rule.severity.name),
      ("type", .string rule.trigger.typeName), ("supported", .bool rule.isSupported),
      ("evidence", .string rule.trigger.evidence.name),
      ("requireSignalMatch", .bool rule.trigger.requireSignal),
      ("signals", Json.strings rule.trigger.signals), ("exempt", Json.strings rule.trigger.exempt),
      ("file_glob", Json.strings rule.trigger.fileGlobs)]

/-- A rule as it is listed for people. -/
def line (rule : RuleConstraint) : Text :=
  let gate : Text := if rule.trigger.requireSignal then "signal-gated" else "ungated"
  let note : Text := if rule.isSupported then [] else " (unsupported)"
  "- " ++ rule.id ++ " [" ++ rule.severity.name ++ "] " ++ rule.area ++ " - "
    ++ rule.trigger.typeName ++ note ++ ", " ++ gate

end RuleConstraint

namespace RulesArguments

/-- The list of rules in a format. -/
def report (format : OutputFormat) (path : Path) (rules : List RuleConstraint) :
    Except CommandError Text :=
  match format with
  | .json =>
    Json.printed .spaced (.object
      [("rules", .array (rules.map RuleConstraint.listing)),
        ("meta", .object [("source", .string path.text)])])
  | .human =>
    .ok (Text.join "\n"
      (("Rules (" ++ Decimal.ofNat rules.length ++ "):") :: rules.map RuleConstraint.line))

/-- The reply. -/
def reply (a : RulesArguments) (env : Environment) : Except CommandError Reply := do
  let format ← OutputFormat.ofArgument a.format
  let config ← env.configuration a.repository a.config
  match env.policyPath a.repository a.rules config.rules with
  | none => throw (.badValueFor "--rules" "Provide --rules or set `rules` in config.")
  | some path =>
    let document ← env.document "Rules" path
    let rules ← (RuleSet.ofJson document).mapError .ofNumeral
    let text ← report format path (RuleConstraint.ofRules rules)
    return { text }

end RulesArguments

namespace ValidateArguments

/-- The verdict on a document of so many rules, for people. -/
def verdict (path : Path) (problems : List Text) (count : Nat) : Text :=
  if problems.isEmpty then
    "Rules file is valid: " ++ path.text ++ " (" ++ Decimal.ofNat count ++ " rules)"
  else
    Text.join "\n"
      (("Invalid rules file: " ++ path.text) :: problems.map fun problem => "- " ++ problem)

/-- The verdict in JSON. -/
def verdictJson (path : Path) (problems : List Text) (count : Nat) : Json :=
  .object
    [("ok", .bool problems.isEmpty), ("errors", Json.strings problems), ("rules", .int count),
      ("source", .string path.text)]

/-- The reply. -/
def reply (a : ValidateArguments) (env : Environment) : Except CommandError Reply := do
  let format ← OutputFormat.ofArgument a.format
  let document ← env.document "Rules" a.rules
  let problems := (RuleSet.problems document).map DocumentProblem.message
  let rules ← (RuleSet.ofJson document).mapError .ofNumeral
  let count := (rules.map fun set => set.rules.length).getD 0
  let text ←
    match format with
    | .json => (verdictJson a.rules problems count).printed .spaced
    | .human => .ok (verdict a.rules problems count)
  return { text, exitCode := if problems.isEmpty then 0 else 1 }

end ValidateArguments

namespace BoundaryRule

/-- A boundary rule as it is listed for people. -/
def line (rule : BoundaryRule) : Text :=
  let allowed : Text :=
    if rule.allowVia.isEmpty then []
    else " (allow via " ++ Text.commaList rule.allowVia ++ ")"
  "- " ++ rule.name ++ ": " ++ rule.source ++ " -> " ++ rule.target ++ allowed

end BoundaryRule

namespace Layer

/-- A layer as it is listed for people. -/
def line (layer : Layer) : Except NumeralError Text := do
  return "- " ++ (← Decimal.write layer.index) ++ ". " ++ layer.name ++ ": " ++ layer.path

end Layer

namespace Boundaries

/-- The paths that were asked for, each once, with their layers. -/
def pathLayers (boundaries : Boundaries) (paths : List Text) : List (Text × Option Layer) :=
  paths.eraseDups.map fun path => (path, boundaries.layerOf path)

/-- Boundaries as they are listed in JSON. -/
def listing (boundaries : Boundaries) (paths : List Text) : Json :=
  .object
    [("forbidden", .array (boundaries.forbidden.map BoundaryRule.toJson)),
      ("layers", .array (boundaries.orderedLayers.map Layer.toJson)),
      ("paths", .object ((boundaries.pathLayers paths).map fun (path, layer) =>
        (path, Json.ofText? (layer.map Layer.name))))]

/-- A heading with lines below it; without lines there is none. -/
def section? (heading : Text) (lines : List Text) : List Text :=
  if lines.isEmpty then [] else heading :: lines

/-- The line of a path. -/
def pathLine (path : Text) (layer : Option Layer) : Text :=
  "- " ++ path ++ ": " ++ (layer.map Layer.name).getD "(no layer)"

/-- Boundaries as they are listed for people. -/
def lines (boundaries : Boundaries) (paths : List Text) : Except NumeralError (List Text) := do
  let layers ← boundaries.orderedLayers.mapM Layer.line
  let forbidden := "Forbidden imports (" ++ Decimal.ofNat boundaries.forbidden.length ++ "):"
  let paths := (boundaries.pathLayers paths).map fun (path, layer) => pathLine path layer
  return forbidden :: boundaries.forbidden.map BoundaryRule.line
    ++ section? ("Layers (" ++ Decimal.ofNat layers.length ++ "):") layers
    ++ section? "Paths:" paths

end Boundaries

namespace BoundariesArguments

/-- The reply. -/
def reply (a : BoundariesArguments) (env : Environment) : Except CommandError Reply := do
  let format ← OutputFormat.ofArgument a.format
  let document ← env.document "Boundaries" a.boundaries
  let loaded ← (Boundaries.ofJson document).mapError .ofNumeral
  let boundaries := loaded.getD {}
  match format with
  | .json => return { text := ← (boundaries.listing a.paths).printed .spaced }
  | .human =>
    let lines ← (boundaries.lines a.paths).mapError .ofNumeral
    return { text := Text.join "\n" lines }

end BoundariesArguments

end PatchReview
