/-
The paths that a command looks at.

What a command does depends on few files: those that its arguments name, those that may
hold the configuration of the repository, and the policy files that the configuration
names.  Whoever runs a command on a real file system needs to know only these.
-/
import PatchReview.Command.Run

namespace PatchReview

namespace Config

/-- The files that may hold the configuration of a repository. -/
def lookups (repository : Path) (named : Option Path) : List Path :=
  match named with
  | some path => [repository.within path]
  | none => (fileNames ++ [projectFile]).map repository.child

/-- The policy files that a configuration names. -/
def policyLookups (config : Config) (workingFolder repository : Path) : List Path :=
  (config.rules.toList ++ config.boundaries.toList).map (policyPath workingFolder repository)

end Config

namespace Command

/-- The repository of a command that has a configuration, and the configuration that is named. -/
def configured? : Command → Option (Path × Option Path)
  | review a => some (a.repository, a.config)
  | rules a => some (a.repository, a.config)
  | config a => some (a.repository, a.config)
  | _ => none

/-- The paths that the arguments of a command name. -/
def namedPaths : Command → List Path
  | review a => a.diffFile.toList ++ a.rules.toList ++ a.boundaries.toList ++ a.out.toList
  | rules a => a.rules.toList
  | validate a => [a.rules]
  | boundaries a => [a.boundaries]
  | normalize a => a.input :: (a.diffFile.toList ++ a.rules.toList)
  | compare a => [a.current, a.previous]
  | config _ => []
  | configInit a => [a.out]

/-- The paths that a command looks at whatever the configuration says. -/
def lookups (command : Command) (workingFolder : Path) : List Path :=
  match command.configured? with
  | none => command.namedPaths
  | some (repository, named) =>
    command.namedPaths ++ Config.lookups (Path.resolve workingFolder repository) named

/-- The paths that a command looks at because the configuration says so. -/
def policyLookups (command : Command) (files : FileTree) (workingFolder : Path) : List Path :=
  match command.configured? with
  | none => []
  | some (repository, named) =>
    match Config.load files workingFolder repository named with
    | .error _ => []
    | .ok loaded => loaded.policyLookups workingFolder repository

/-- Whether a command reads standard input. -/
def readsInput : Command → Bool
  | review a => a.diffFile.isNone && a.fromInput
  | _ => false

end Command

end PatchReview
