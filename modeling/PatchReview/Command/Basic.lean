/-
The commands.

A command line names one command and what the command is given.  Before the command
stand the options of the program itself: its version, and logging, which says nothing
about results.  A command is known by the structure that holds what it was given.
-/
import PatchReview.Command.Option
import PatchReview.File.Path

namespace PatchReview

/-- What `review` is given. -/
structure ReviewArguments where
  diffFile : Option Path := none
  /-- The diff is read from standard input. -/
  fromInput : Bool := false
  repository : Path := {}
  base : Option Text := none
  head : Option Text := none
  /-- Lines of context that git shows. -/
  context : Option Int := none
  rules : Option Path := none
  boundaries : Option Path := none
  format : Option Text := none
  failOn : Option Text := none
  maxFindings : Option Int := none
  /-- Where the review is saved as well. -/
  out : Option Path := none
  config : Option Path := none
deriving DecidableEq, Repr

/-- What `rules` is given. -/
structure RulesArguments where
  rules : Option Path := none
  repository : Path := {}
  format : Text
  config : Option Path := none
deriving DecidableEq, Repr

/-- What `rules-validate` is given. -/
structure ValidateArguments where
  rules : Path
  format : Text
deriving DecidableEq, Repr

/-- What `boundaries` is given. -/
structure BoundariesArguments where
  boundaries : Path
  /-- Paths whose layers are asked for. -/
  paths : List Text := []
  format : Text
deriving DecidableEq, Repr

/-- What `normalize` is given. -/
structure NormalizeArguments where
  input : Path
  diffFile : Option Path := none
  rules : Option Path := none
deriving DecidableEq, Repr

/-- What `compare` is given. -/
structure CompareArguments where
  current : Path
  previous : Path
  format : Text
deriving DecidableEq, Repr

/-- What `config` is given. -/
structure ConfigArguments where
  repository : Path := {}
  format : Text
  config : Option Path := none
deriving DecidableEq, Repr

/-- What `config-init` is given. -/
structure ConfigInitArguments where
  out : Path
  /-- An existing file is overwritten. -/
  force : Bool := false
deriving DecidableEq, Repr

/-- A command with what it is given. -/
inductive Command
  | review (arguments : ReviewArguments)
  | rules (arguments : RulesArguments)
  | validate (arguments : ValidateArguments)
  | boundaries (arguments : BoundariesArguments)
  | normalize (arguments : NormalizeArguments)
  | compare (arguments : CompareArguments)
  | config (arguments : ConfigArguments)
  | configInit (arguments : ConfigInitArguments)
deriving DecidableEq, Repr

/-- What a command line asks for. -/
inductive Invocation
  | help
  | version
  | run (command : Command)
deriving DecidableEq, Repr

/-- The name of a command. -/
inductive CommandName
  | review
  | rules
  | validate
  | boundaries
  | normalize
  | compare
  | config
  | configInit
deriving DecidableEq, Repr

namespace Arguments

/-- The path that an option was given. -/
def path? (arguments : Arguments) (name : Text) : Option Path :=
  (arguments.text? name).map Path.ofText

/-- The path that an option was given; the working folder stands for none. -/
def pathOrHere (arguments : Arguments) (name : Text) : Path := (arguments.path? name).getD {}

/-- The output format that was asked for. -/
def format (arguments : Arguments) : Text := (arguments.text? "--format").getD "human"

end Arguments

namespace CommandName

/-- All commands. -/
def all : List CommandName :=
  [review, rules, validate, boundaries, normalize, compare, config, configInit]

/-- The word for a command. -/
def word : CommandName → Text
  | review => "review"
  | rules => "rules"
  | validate => "rules-validate"
  | boundaries => "boundaries"
  | normalize => "normalize"
  | compare => "compare"
  | config => "config"
  | configInit => "config-init"

/-- The command of a word. -/
def ofWord? (word : Text) : Option CommandName := all.find? fun name => name.word == word

/-- An option with a text. -/
def textOption (name : Text) : OptionSpec := { name, form := .text }

/-- An option that has to be given. -/
def requiredOption (name : Text) : OptionSpec := { name, form := .text, required := true }

/-- The options of a command, without the one that asks for help. -/
def ownOptions : CommandName → List OptionSpec
  | review =>
    [textOption "--diff-file", { name := "--stdin", form := .switch "--no-stdin" },
      textOption "--repo", textOption "--base", textOption "--head",
      { name := "--unified", form := .number }, textOption "--rules", textOption "--boundaries",
      textOption "--format", textOption "--fail-on", { name := "--max-findings", form := .number },
      textOption "--out", textOption "--config"]
  | rules =>
    [textOption "--rules", textOption "--repo", textOption "--format", textOption "--config"]
  | validate => [requiredOption "--rules", textOption "--format"]
  | boundaries => [requiredOption "--boundaries", textOption "--path", textOption "--format"]
  | normalize => [requiredOption "--input", textOption "--diff-file", textOption "--rules"]
  | compare => [requiredOption "--current", requiredOption "--previous", textOption "--format"]
  | config => [textOption "--repo", textOption "--format", textOption "--config"]
  | configInit => [textOption "--out", { name := "--force", form := .flag }]

/-- The options of a command. -/
def options (name : CommandName) : List OptionSpec := name.ownOptions ++ [OptionSpec.help]

/-- The file that `config-init` writes unless another is named. -/
def starterFile : Text := ".diff-sentinel.toml"

/-- A command with the arguments it was given. -/
def command (name : CommandName) (a : Arguments) : Command :=
  match name with
  | review =>
    .review
      { diffFile := a.path? "--diff-file", fromInput := a.isOn "--stdin"
        repository := a.pathOrHere "--repo", base := a.text? "--base", head := a.text? "--head"
        context := a.number? "--unified", rules := a.path? "--rules"
        boundaries := a.path? "--boundaries", format := a.text? "--format"
        failOn := a.text? "--fail-on", maxFindings := a.number? "--max-findings"
        out := a.path? "--out", config := a.path? "--config" }
  | rules =>
    .rules
      { rules := a.path? "--rules", repository := a.pathOrHere "--repo", format := a.format
        config := a.path? "--config" }
  | validate => .validate { rules := a.pathOrHere "--rules", format := a.format }
  | boundaries =>
    .boundaries
      { boundaries := a.pathOrHere "--boundaries", paths := a.texts "--path", format := a.format }
  | normalize =>
    .normalize
      { input := a.pathOrHere "--input", diffFile := a.path? "--diff-file"
        rules := a.path? "--rules" }
  | compare =>
    .compare
      { current := a.pathOrHere "--current", previous := a.pathOrHere "--previous"
        format := a.format }
  | config =>
    .config
      { repository := a.pathOrHere "--repo", format := a.format, config := a.path? "--config" }
  | configInit =>
    .configInit
      { out := (a.path? "--out").getD (Path.ofText starterFile), force := a.isOn "--force" }

end CommandName

namespace Invocation

/-- The options of the program itself. -/
def options : List OptionSpec :=
  [{ name := "--version", form := .flag }, { name := "--debug", form := .flag }, OptionSpec.help]

/-- Reads what stands behind the name of a command. -/
def ofCommand (name : CommandName) (arguments : List Text) : Except UsageError Invocation := do
  let given ← Arguments.scan name.options true arguments
  if given.isOn OptionSpec.help.name then return help
  given.check name.options
  return run (name.command given)

/-- Reads the name of a command and what stands behind it. -/
def ofWords : List Text → Except UsageError Invocation
  | [] => .error .missingCommand
  | word :: rest =>
    match CommandName.ofWord? word with
    | some name => ofCommand name rest
    | none =>
      .error (.noSuchCommand word (Text.closest word (CommandName.all.map CommandName.word)))

/-- Reads a command line.  An empty one asks for help. -/
def ofArguments (arguments : List Text) : Except UsageError Invocation := do
  if arguments.isEmpty then return help
  let given ← Arguments.scan options false arguments
  if given.isOn OptionSpec.help.name then return help
  if given.isOn "--version" then return version
  ofWords given.rest

end Invocation

end PatchReview
