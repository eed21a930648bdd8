/-
The commands for the configuration: `config` shows it, `config-init` writes one to start
with.
-/
import PatchReview.Command.Basic
import PatchReview.Command.Environment

namespace PatchReview

namespace Config

/-- A line that shows a field. -/
def fieldLine (name : Text) (v : Json) : Except NumeralError Text := do
  return "- " ++ name ++ ": " ++ (← v.display)

/-- The fields that are shown, in order, behind the source. -/
def shownFields : List Text :=
  ["format", "fail_on", "max_findings", "rules", "boundaries", "engine"]

/-- A configuration as it is shown to people. -/
def lines (config : Config) : Except NumeralError (List Text) := do
  let source := (config.source.map Path.text).getD "defaults"
  let fields ← shownFields.mapM fun name => fieldLine name (config.toJson.field name)
  let heading : List Text := ["Resolved configuration:", "- source: " ++ source]
  return heading ++ fields

end Config

namespace ConfigArguments

/-- The reply. -/
def reply (a : ConfigArguments) (env : Environment) : Except CommandError Reply := do
  let format ← OutputFormat.ofArgument a.format
  let config ← env.configuration a.repository a.config
  match format with
  | .json => return { text := ← config.toJson.printed .spaced }
  | .human =>
    let lines ← config.lines.mapError .ofNumeral
    return { text := Text.join "\n" lines }

end ConfigArguments

namespace ConfigInitArguments

/-- The reply; an existing file is left alone unless overwriting is forced. -/
def reply (a : ConfigInitArguments) (env : Environment) : Except CommandError Reply :=
  let path := Path.resolve env.workingFolder a.out
  if env.files.contains env.workingFolder.parts path && !a.force then
    .error (.badValue
      ("Refusing to overwrite existing file: " ++ path.text ++ ". Use --force to overwrite."))
  else
    .ok { text := "Wrote starter config: " ++ path.text, save := some (path, Config.starter) }

end ConfigInitArguments

end PatchReview
