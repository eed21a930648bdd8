/-
Options of a command.

An option has a name with two dashes.  It is a flag, a switch with a name for off, or it
takes the next argument, or what follows an equals sign, as its value, even if that looks
like an option.  Two dashes alone end the options.  Given twice, an option means what it
was given last.
-/
import PatchReview.Command.Usage
import PatchReview.Number.Decimal
import PatchReview.Text.Blank
import PatchReview.Text.Similar

namespace PatchReview

/-- How an option is given. -/
inductive OptionForm
  /-- It is given or not. -/
  | flag
  /-- It is switched on, or off by a name of its own. -/
  | switch (off : Text)
  /-- It has a value. -/
  | text
  /-- It has a value, which is a whole number. -/
  | number
deriving DecidableEq, Repr

/-- An option that a command knows. -/
structure OptionSpec where
  name : Text
  form : OptionForm
  required : Bool := false
deriving DecidableEq, Repr

/-- What an option was given. -/
inductive OptionValue
  | on
  | off
  | text (t : Text)
deriving DecidableEq, Repr

/-- What a command was given: options in order, and what is left over. -/
structure Arguments where
  options : List (Text × OptionValue) := []
  rest : List Text := []
deriving DecidableEq, Repr

namespace OptionSpec

/-- The option that asks for help; every command has it. -/
def help : OptionSpec := { name := "--help", form := .flag }

/-- All names of an option. -/
def names (spec : OptionSpec) : List Text :=
  match spec.form with
  | .switch off => [spec.name, off]
  | _ => [spec.name]

/-- Whether an option takes a value. -/
def takesValue (spec : OptionSpec) : Bool :=
  match spec.form with
  | .text | .number => true
  | _ => false

/-- What a name of an option without a value says. -/
def state (spec : OptionSpec) (name : Text) : OptionValue :=
  if spec.name = name then .on else .off

/-- The option of a name. -/
def find? (specs : List OptionSpec) (name : Text) : Option OptionSpec :=
  specs.find? fun spec => spec.names.contains name

end OptionSpec

namespace Arguments

/-- What ends the options. -/
def endMark : Text := "--"

/-- Whether an argument is read as an option. -/
def isOption (argument : Text) : Bool :=
  argument.head? == some (CodePoint.ofChar '-') && 1 < argument.length

/-- The name in an argument, and the value behind an equals sign. -/
def nameAndValue (argument : Text) : Text × Option Text :=
  let name := Text.before '=' argument
  (name, if name.length < argument.length then some (argument.drop (name.length + 1)) else none)

/-- The mistake of naming an option that is none.  With one dash, each letter would be an option of
its own, and the first of them is named. -/
def unknown (specs : List OptionSpec) (argument name : Text) : UsageError :=
  if argument.startsWith endMark then
    .noSuchOption name (Text.closest name (specs.flatMap OptionSpec.names))
  else .noSuchOption (argument.take 2) []

/-- Puts an option in front. -/
def withOption (name : Text) (value : OptionValue) (arguments : Arguments) : Arguments :=
  { arguments with options := (name, value) :: arguments.options }

/-- Puts an argument that belongs to no option in front. -/
def withRest (argument : Text) (arguments : Arguments) : Arguments :=
  { arguments with rest := argument :: arguments.rest }

/-- Reads arguments.  Unless `throughout` holds, the first argument that belongs to no option ends
the options. -/
def scan (specs : List OptionSpec) (throughout : Bool) : List Text → Except UsageError Arguments
  | [] => .ok {}
  | argument :: rest =>
    if argument = endMark then .ok { rest }
    else if isOption argument then
      let (name, value) := nameAndValue argument
      match OptionSpec.find? specs name with
      | none => .error (unknown specs argument name)
      | some spec =>
        if spec.takesValue then
          match value with
          | some value => (scan specs throughout rest).map (withOption spec.name (.text value))
          | none =>
            match rest with
            | [] => .error (.argumentRequired name)
            | value :: rest =>
              (scan specs throughout rest).map (withOption spec.name (.text value))
        else
          match value with
          | some _ => .error (.argumentRefused name)
          | none => (scan specs throughout rest).map (withOption spec.name (spec.state name))
    else if throughout then (scan specs throughout rest).map (withRest argument)
    else .ok { rest := argument :: rest }

/-- What an option was given last. -/
def get? (arguments : Arguments) (name : Text) : Option OptionValue :=
  (arguments.options.reverse.find? fun option => option.1 == name).map Prod.snd

/-- Whether an option is on. -/
def isOn (arguments : Arguments) (name : Text) : Bool := arguments.get? name = some .on

/-- The value of an option. -/
def text? (arguments : Arguments) (name : Text) : Option Text :=
  match arguments.get? name with
  | some (.text t) => some t
  | _ => none

/-- All values of an option. -/
def texts (arguments : Arguments) (name : Text) : List Text :=
  arguments.options.filterMap fun option =>
    match option.2 with
    | .text t => if option.1 = name then some t else none
    | _ => none

/-- The number that an option was given. -/
def number? (arguments : Arguments) (name : Text) : Option Int :=
  (arguments.text? name).bind Decimal.ofText?

/-- Checks that a number was given where one is wanted. -/
def checkNumber (specs : List OptionSpec) (arguments : Arguments) (name : Text) :
    Except UsageError Unit :=
  match OptionSpec.find? specs name, arguments.text? name with
  | some { form := .number, .. }, some t =>
    if (Decimal.ofText? t).isSome then .ok ()
    else .error (.badValue (some ("'" ++ name ++ "'")) (t.quoted ++ " is not a valid integer."))
  | _, _ => .ok ()

/-- Checks that a required option was given. -/
def checkRequired (arguments : Arguments) (spec : OptionSpec) : Except UsageError Unit :=
  if spec.required && (arguments.get? spec.name).isNone then .error (.missingOption spec.name)
  else .ok ()

/-- Checks what was given: first the options in the order in which they were given, then the missing
ones in the order of the command, and last that nothing is left over. -/
def check (specs : List OptionSpec) (arguments : Arguments) : Except UsageError Unit := do
  (arguments.options.map Prod.fst).forM (checkNumber specs arguments)
  specs.forM (checkRequired arguments)
  if !arguments.rest.isEmpty then throw (.unexpected arguments.rest)

end Arguments

end PatchReview
