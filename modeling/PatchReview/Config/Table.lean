/-
Configurations from tables.

Every field is checked, and the first one that does not fit is reported.  Only the
format is taken leniently: a word that is no format stands for reports for people.
-/
import PatchReview.Config.Basic
import PatchReview.Toml.Basic

namespace PatchReview

/-- What is wrong with a field of a configuration. -/
inductive FieldFlaw
  | tableExpected
  | stringExpected
  | integerExpected
  | positiveExpected
  | booleanExpected
  /-- One of these words is expected. -/
  | choiceExpected (choices : Text)
deriving DecidableEq, Repr

/-- Why a table is no configuration. -/
inductive TableError
  | field (name : Text) (flaw : FieldFlaw)
  | numeral (error : NumeralError)
deriving DecidableEq, Repr

namespace FieldFlaw

/-- What is said about a field. -/
def description : FieldFlaw → Text
  | tableExpected => "must be a table/object"
  | stringExpected => "must be a string"
  | integerExpected => "must be an integer"
  | positiveExpected => "must be > 0"
  | booleanExpected => "must be a boolean"
  | choiceExpected choices => "must be one of: " ++ choices

end FieldFlaw

namespace TableError

/-- What is said about a table. -/
def message : TableError → Text
  | field name flaw => name ++ " " ++ flaw.description
  | numeral e => e.message

end TableError

namespace Config

/-- A table; a missing one is empty. -/
def tableField (name : Text) : Option Toml → Except TableError Toml.Fields
  | none => .ok []
  | some v =>
    match v.fields? with
    | some fields => .ok fields
    | none => .error (.field name .tableExpected)

/-- A string that may be missing. -/
def stringField (name : Text) : Option Toml → Except TableError (Option Text)
  | none => .ok none
  | some (.string t) => .ok (some t)
  | some _ => .error (.field name .stringExpected)

/-- A number above zero that may be missing. -/
def countField (name : Text) : Option Toml → Except TableError (Option Int)
  | none => .ok none
  | some (.integer n) => if 0 < n then .ok (some n) else .error (.field name .positiveExpected)
  | some _ => .error (.field name .integerExpected)

/-- A switch, which is off when it is missing. -/
def switchField (name : Text) : Option Toml → Except TableError Bool
  | none => .ok false
  | some (.boolean b) => .ok b
  | some _ => .error (.field name .booleanExpected)

/-- The output format. -/
def formatField : Option Toml → Except TableError OutputFormat
  | none => .ok .human
  | some v => do
    let word ← v.word?.mapError .numeral
    return (word.bind OutputFormat.ofText?).getD .human

/-- The severity to fail on. -/
def failOnField : Option Toml → Except TableError (Option FailOn)
  | none => .ok none
  | some v => do
    let word ← v.word?.mapError .numeral
    match word.bind FailOn.ofText? with
    | some choice => return some choice
    | none => throw (.field "fail_on" (.choiceExpected FailOn.choices))

/-- The options of the review, which stand in a table of their own. -/
def optionsOfTable (table : Toml.Fields) : Except TableError ReviewOptions := do
  return {
    strictSignals := ← switchField "engine.strict_signals" (table.get? "strict_signals")
    capPerFile :=
      ← countField "engine.cap_per_rule_per_file" (table.get? "cap_per_rule_per_file")
    capTotal := ← countField "engine.cap_per_rule_total" (table.get? "cap_per_rule_total") }

/-- The configuration in a table. -/
def ofTable (table : Toml.Fields) (source : Path) : Except TableError Config := do
  let engine ← tableField "engine" (table.get? "engine")
  let format ← formatField (table.get? "format")
  let failOn ← failOnField (table.get? "fail_on")
  let maxFindings ← countField "max_findings" (table.get? "max_findings")
  let rules ← stringField "rules" (table.get? "rules")
  let boundaries ← stringField "boundaries" (table.get? "boundaries")
  let options ← optionsOfTable engine
  return { format, failOn, maxFindings, rules, boundaries, options, source := some source }

end Config

end PatchReview
