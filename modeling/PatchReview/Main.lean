/-
The program.

The files that the command looks at are read first, the command is run on them, and what
it saved is written back.  Git is not run from here, so a diff comes from a file or from
standard input.
-/
import PatchReview.Command.Lookup
import PatchReview.Report.Timestamp

namespace PatchReview

namespace Program

/-- The file name for a place. -/
def fileName (place : List Text) : String :=
  (Path.text { start := .root, parts := place }).toString

/-- What stands at a place of the file system. -/
def probe (place : List Text) : IO (Option FileEntry) := do
  try
    let bytes ← IO.FS.readBinFile (fileName place)
    return some (.file bytes.toList)
  catch e =>
    match e with
    | .noFileOrDirectory .. => return none
    | _ => return some .folder

/-- Adds the places on the way to a path to what is known of the file system. -/
def learn (files : FileTree) (place : List Text) : List Text → IO FileTree
  | [] => return files
  | part :: rest => do
    let place := if part = Path.up then place.dropLast else place ++ [part]
    match files.get? place with
    | some _ => learn files place rest
    | none =>
      match ← probe place with
      | none => learn files place rest
      | some entry => learn (files.set place entry) place rest

/-- Adds the places on the way to some paths. -/
def learnAll (workingFolder : Path) (files : FileTree) (paths : List Path) : IO FileTree :=
  paths.foldlM (fun files path => learn files [] (workingFolder.within path).parts) files

/-- The files that a command looks at. -/
def filesFor (workingFolder : Path) (command : Command) : IO FileTree := do
  let files ← learnAll workingFolder {} (workingFolder :: command.lookups workingFolder)
  learnAll workingFolder files (command.policyLookups files workingFolder)

/-- Writes a file that a command saved. -/
def writeBack (place : List Text) (bytes : List UInt8) : IO Unit := do
  IO.FS.createDirAll (fileName place.dropLast)
  IO.FS.writeBinFile (fileName place) ⟨bytes.toArray⟩

/-- Reads standard input to its end. -/
partial def readInput (input : IO.FS.Stream) (bytes : ByteArray) : IO ByteArray := do
  let more ← input.read 65536
  if more.isEmpty then return bytes else readInput input (bytes ++ more)

/-- The first number on the line of a file that begins with a word. -/
def numberAfter (file : String) (word : String) : IO Nat := do
  let content ← IO.FS.readFile file
  let lines := (Text.ofString content).lines
  let rest := (lines.findSome? (Text.dropStart? word)).getD []
  return Decimal.valueOf ((Decimal.span rest.trimStart).1.filterMap CodePoint.digitValue?)

/-- The seconds since 1970: when the system started, and how long it has been up. -/
def secondsNow : IO Nat := do
  try return (← numberAfter "/proc/stat" "btime") + (← numberAfter "/proc/uptime" "")
  catch _ => return 0

/-- A random identifier in the usual grouping. -/
def randomId : IO Text := do
  let bytes ← IO.getRandomBytes 16
  let digits := bytes.toList.flatMap fun b => Text.hexDigits b.toNat 2
  return Text.join "-"
    [digits.take 8, (digits.drop 8).take 4, (digits.drop 12).take 4, (digits.drop 16).take 4,
      digits.drop 20]

/-- What a command sees. -/
def environment (command : Command) : IO Environment := do
  let workingFolder := Path.ofText (Text.ofString (← IO.currentDir).toString)
  let input ← if command.readsInput then readInput (← IO.getStdin) .empty else pure .empty
  return {
    files := ← filesFor workingFolder command
    workingFolder
    input := Utf8.decodeLossy input.toList
    runId := ← randomId
    time := Timestamp.ofSeconds (← secondsNow) }

/-- Prints a text. -/
def put (stream : IO.FS.Stream) (t : Text) : IO Unit := do
  stream.write ⟨(Utf8.encode t).toArray⟩
  stream.flush

/-- Reports an error and gives the exit code for it. -/
def fail (e : CommandError) : IO UInt32 := do
  put (← IO.getStderr) ("Error: " ++ e.message ++ "\n")
  match e with
  | .usage _ => return 2
  | _ => return 1

/-- Reports what came of a command and gives the exit code. -/
def finish (outcome : Except CommandError Completion) : IO UInt32 := do
  match outcome with
  | .error e => fail e
  | .ok completion =>
    put (← IO.getStdout) completion.output
    return UInt32.ofNat completion.exitCode

/-- Runs a command. -/
def runCommand (command : Command) : IO UInt32 := do
  let env ← environment command
  let result := env.runInvocation (.run command)
  for (place, bytes) in result.files.newerFiles env.files do
    writeBack place bytes
  finish result.outcome

end Program

end PatchReview

open PatchReview in
/-- Runs the program. -/
def main (arguments : List String) : IO UInt32 := do
  match Invocation.ofArguments (arguments.map Text.ofString) with
  | .error e => Program.fail (.usage e)
  | .ok (.run command) => Program.runCommand command
  | .ok invocation =>
    let env : Environment := { files := {}, workingFolder := {}, runId := [], time := [] }
    Program.finish (env.runInvocation invocation).outcome
