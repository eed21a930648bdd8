/-
What commands depend on, and what they do.

A command sees files, a working folder, standard input, a run of git and the origin of
the review that it may write.  It works out a reply: a text to print, an exit code, and
perhaps one file to save.  Saving that file is all that a command itself ever changes, and
it happens before anything is printed.  Git is another program: what it changes is up to
it, and a command that has run git sees the files as git left them.
-/
import PatchReview.Command.Usage
import PatchReview.Config.Load
import PatchReview.File.Document
import PatchReview.Git
import PatchReview.Json.Printer
import PatchReview.Report.ExitCode
import PatchReview.Report.Style
import PatchReview.Signal

namespace PatchReview

/-- What a command sees. -/
structure Environment where
  files : FileTree
  workingFolder : Path
  /-- Standard input. -/
  input : Text := []
  /-- What comes of running git. -/
  git : GitRun := .missing
  /-- What running git in a folder, with some arguments, makes of the files. -/
  gitEffect : (folder : Path) → (arguments : List Text) → FileTree → FileTree :=
    fun _ _ files => files
  /-- The id of the run. -/
  runId : Text
  /-- The time of the run. -/
  time : Text

/-- Why a command fails. -/
inductive CommandError
  | usage (error : UsageError)
  | file (error : FileError)
  | review (error : ReviewError)
  | severity (error : UnknownSeverity)
deriving DecidableEq, Repr

/-- What a command works out. -/
structure Reply where
  /-- What is printed, on a line of its own. -/
  text : Text
  exitCode : Nat := 0
  /-- The file to save first. -/
  save : Option (Path × Text) := none
deriving DecidableEq, Repr

/-- What is seen of a command: what it printed and its exit code. -/
structure Completion where
  output : Text
  exitCode : Nat
deriving DecidableEq, Repr

/-- What came of a command. -/
structure CommandResult where
  /-- The files after the command. -/
  files : FileTree
  /-- The command lines of git that were run. -/
  gitCalls : List (List Text) := []
  outcome : Except CommandError Completion

namespace CommandError

/-- What is said about an error. -/
def message : CommandError → Text
  | usage e => e.message
  | file e => e.message
  | review e => e.message
  | severity e => e.word.quoted

/-- A value that cannot be used, without a hint what it was given for. -/
def badValue (reason : Text) : CommandError := .usage (.badValue none reason)

/-- A value that cannot be used for what the hint names. -/
def badValueFor (hint reason : Text) : CommandError := .usage (.badValue (some hint) reason)

/-- A numeral beyond the limit. -/
def ofNumeral (e : NumeralError) : CommandError := .review (.numeral e)

/-- A document that cannot be read is a mistake on the command line, unless its file resists. -/
def ofDocument : DocumentError → CommandError
  | .unreadable e => .file e
  | e => badValue e.message

/-- A configuration that cannot be used is a mistake on the command line, unless its file resists. -/
def ofConfig : ConfigError → CommandError
  | .unreadable e => .file e
  | e => badValueFor "config" e.message

end CommandError

namespace Environment

/-- Reads a document of some kind. -/
def document (env : Environment) (kind : Text) (path : Path) : Except CommandError Json :=
  (Json.load env.files env.workingFolder kind path).mapError .ofDocument

/-- Reads a document that may be left out. -/
def optionalDocument (env : Environment) (kind : Text) : Option Path → Except CommandError Json
  | none => .ok .null
  | some path => env.document kind path

/-- Reads the configuration. -/
def configuration (env : Environment) (repository : Path) (named : Option Path) :
    Except CommandError Config :=
  (Config.load env.files env.workingFolder repository named).mapError .ofConfig

/-- Where a policy file is: where the command line says, or else where the configuration does. -/
def policyPath (env : Environment) (repository : Path) (explicit : Option Path)
    (configured : Option Text) : Option Path :=
  match explicit with
  | some path => some path
  | none => configured.map (Config.policyPath env.workingFolder repository)

/-- The text of a diff file. -/
def diffText (env : Environment) (path : Path) : Except CommandError Text :=
  (env.files.readLossy env.workingFolder.parts path).mapError .file

/-- What is seen once git was run in a repository; a git that is missing leaves all as it is. -/
def afterGit (env : Environment) (repository : Path) (arguments : List Text) : Environment :=
  match env.git with
  | .missing => env
  | .exited .. =>
    let folder := Path.resolve env.workingFolder repository
    { env with files := env.gitEffect folder arguments env.files }

/-- Saves the file of a reply. -/
def saved (env : Environment) (reply : Reply) : FileTree × Option FileError :=
  match reply.save with
  | none => (env.files, none)
  | some (path, text) => env.files.save env.workingFolder.parts path (Utf8.encode text)

/-- What comes of a reply; escapes are stripped from what is printed. -/
def carryOut (env : Environment) (reply : Reply) : FileTree × Except CommandError Completion :=
  match env.saved reply with
  | (files, some e) => (files, .error (.file e))
  | (files, none) =>
    (files, .ok { output := Style.strip (reply.text ++ "\n"), exitCode := reply.exitCode })

end Environment

namespace OutputFormat

/-- The output format that was asked for. -/
def ofArgument (word : Text) : Except CommandError OutputFormat :=
  match ofText? word with
  | some format => .ok format
  | none => .error (.badValueFor "--format" "format must be one of: human, json")

end OutputFormat

namespace Json

/-- A value as it is printed. -/
def printed (layout : Layout) (v : Json) : Except CommandError Text :=
  (v.print layout).mapError .ofNumeral

end Json

end PatchReview
