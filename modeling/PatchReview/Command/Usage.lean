/-
Mistakes on the command line.
-/
import PatchReview.Text.Order
import PatchReview.Text.Quoted

namespace PatchReview

/-- What is wrong with a command line. -/
inductive UsageError
  /-- A value cannot be used; the hint names what it was given for. -/
  | badValue (hint : Option Text) (reason : Text)
  /-- There is no such option, but there are similar ones. -/
  | noSuchOption (name : Text) (similar : List Text)
  /-- Nothing follows an option that needs an argument. -/
  | argumentRequired (name : Text)
  /-- A switch was given a value. -/
  | argumentRefused (name : Text)
  /-- A required option is missing. -/
  | missingOption (name : Text)
  /-- Arguments are left over. -/
  | unexpected (arguments : List Text)
  | missingCommand
  /-- There is no such command, but there are similar ones. -/
  | noSuchCommand (name : Text) (similar : List Text)
deriving DecidableEq, Repr

namespace UsageError

/-- The options that may have been meant. -/
def optionProposal : List Text → Text
  | [] => []
  | [name] => " Did you mean " ++ name ++ "?"
  | names => " (Possible options: " ++ Text.commaList (Text.sorted names) ++ ")"

/-- The commands that may have been meant. -/
def commandProposal : List Text → Text
  | [] => []
  | names => " Did you mean " ++ Text.commaList (names.map Text.quoted) ++ "?"

/-- What is said about a mistake. -/
def message : UsageError → Text
  | badValue none reason => "Invalid value: " ++ reason
  | badValue (some hint) reason => "Invalid value for " ++ hint ++ ": " ++ reason
  | noSuchOption name similar => "No such option: " ++ name ++ optionProposal similar
  | argumentRequired name => "Option " ++ name.quoted ++ " requires an argument."
  | argumentRefused name => "Option " ++ name.quoted ++ " does not take a value."
  | missingOption name => "Missing option '" ++ name ++ "'."
  | unexpected [argument] => "Got unexpected extra argument (" ++ argument ++ ")"
  | unexpected arguments =>
    "Got unexpected extra arguments (" ++ Text.join " " arguments ++ ")"
  | missingCommand => "Missing command."
  | noSuchCommand name similar =>
    "No such command " ++ name.quoted ++ "." ++ commandProposal similar

end UsageError

end PatchReview
