/-
Running a command line.

The reply is worked out from what the environment holds; a mistake found on the way
leaves everything as it is, or as git left it.  Then the reply is carried out.
-/
import PatchReview.Command.Findings
import PatchReview.Command.Policy
import PatchReview.Command.Review
import PatchReview.Command.Setup

namespace PatchReview

namespace Command

variable [Host]

/-- The reply of a command. -/
def reply (command : Command) (env : Environment) : Except CommandError Reply :=
  match command with
  | review a => a.reply env
  | rules a => a.reply env
  | validate a => a.reply env
  | boundaries a => a.reply env
  | normalize a => a.reply env
  | compare a => a.reply env
  | config a => a.reply env
  | configInit a => a.reply env

/-- The command lines of git that a command runs. -/
def gitCalls (command : Command) (env : Environment) : List (List Text) :=
  match command with
  | review a => a.gitCalls env
  | _ => []

/-- What is seen once a command has run git, if it does. -/
def afterGit (command : Command) (env : Environment) : Environment :=
  match command with
  | review a => a.afterGit env
  | _ => env

end Command

namespace Invocation

variable [Host]

/-- What is printed when help is asked for. -/
def usage : Text :=
  "Usage: patch-review [--version] [--debug] COMMAND [OPTIONS]\n\nCommands: "
    ++ Text.commaList (CommandName.all.map CommandName.word)

/-- The reply to a command line. -/
def reply (invocation : Invocation) (env : Environment) : Except CommandError Reply :=
  match invocation with
  | help => .ok { text := usage }
  | version => .ok { text := programVersion }
  | run command => command.reply env

/-- The command lines of git that a command line leads to. -/
def gitCalls (invocation : Invocation) (env : Environment) : List (List Text) :=
  match invocation with
  | run command => command.gitCalls env
  | _ => []

/-- What is seen once git has run, if a command line leads to it. -/
def afterGit (invocation : Invocation) (env : Environment) : Environment :=
  match invocation with
  | run command => command.afterGit env
  | _ => env

end Invocation

namespace Environment

variable [Host]

/-- Runs what a command line asks for. -/
def runInvocation (env : Environment) (invocation : Invocation) : CommandResult :=
  let gitCalls := invocation.gitCalls env
  let after := invocation.afterGit env
  match invocation.reply env with
  | .error e => { files := after.files, gitCalls, outcome := .error e }
  | .ok reply =>
    let (files, outcome) := after.carryOut reply
    { files, gitCalls, outcome }

/-- Runs a command line. -/
def run (env : Environment) (arguments : List Text) : CommandResult :=
  match Invocation.ofArguments arguments with
  | .error e => { files := env.files, outcome := .error (.usage e) }
  | .ok invocation => env.runInvocation invocation

end Environment

end PatchReview
