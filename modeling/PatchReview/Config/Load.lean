/-
Finding a configuration.

A file that is named explicitly is used or is an error.  Otherwise the first of two files
in the repository that is there decides, even if it is broken.  Without either, the
project file may hold a configuration among its tool tables; if it holds none, the
defaults stand.
-/
import PatchReview.Config.Table
import PatchReview.File.Content
import PatchReview.Toml.Reader

namespace PatchReview

/-- Why there is no configuration. -/
inductive ConfigError
  /-- The file that was named is missing. -/
  | missing (path : Path)
  | unreadable (error : FileError)
  | undecodable (error : Utf8.DecodeError)
  | malformed (path : Path)
  | numeral (error : NumeralError)
  | table (error : TableError)
deriving DecidableEq, Repr

namespace ConfigError

/-- What is said about an error. -/
def message : ConfigError → Text
  | missing path => "Config file does not exist: " ++ path.text
  | unreadable e => e.message
  | undecodable e => e.message
  | malformed path => "Invalid TOML in " ++ path.text
  | numeral e => e.message
  | table e => e.message

end ConfigError

namespace Config

/-- The files that may hold the configuration of a repository; the first that is there decides. -/
def fileNames : List Text := [".diff-sentinel.toml", "diff-sentinel.toml"]

/-- The project file. -/
def projectFile : Text := "pyproject.toml"

/-- The names under which a tool table may hold a configuration, in order. -/
def toolNames : List Text := ["diff_sentinel", "diff-sentinel"]

/-- The configuration among the tool tables of a document. -/
def toolTable? (document : Toml.Fields) : Option Toml.Fields :=
  match document.get? "tool" with
  | some (.table tools) => toolNames.findSome? fun name => (Toml.Fields.get? name tools).bind Toml.fields?
  | _ => none

/-- The table that holds the configuration of a file.  In a project file it is a tool table, in any
other file it may be the whole document. -/
def tableOf (path : Path) (document : Toml.Fields) : Toml.Fields :=
  (toolTable? document).getD (if path.name = projectFile then [] else document)

/-- Reads the table that holds the configuration of a file. -/
def readTable (files : FileTree) (workingFolder path : Path) : Except ConfigError Toml.Fields := do
  let bytes ← (files.read workingFolder.parts path).mapError .unreadable
  let text ← (Utf8.decode bytes).mapError .undecodable
  match Toml.read text with
  | .error .malformed => throw (.malformed path)
  | .error (.numeral e) => throw (.numeral e)
  | .ok document => return tableOf path document

/-- Reads the configuration of a file. -/
def readFile (files : FileTree) (workingFolder path : Path) : Except ConfigError Config := do
  let table ← readTable files workingFolder path
  (ofTable table path).mapError .table

/-- The configuration of the project file, if it holds one. -/
def ofProject (files : FileTree) (workingFolder path : Path) : Except ConfigError Config := do
  let table ← readTable files workingFolder path
  if table.isEmpty then return {} else (ofTable table path).mapError .table

/-- The configuration of a repository. -/
def ofRepository (files : FileTree) (workingFolder repository : Path) :
    Except ConfigError Config :=
  match (fileNames.map repository.child).find? (files.contains workingFolder.parts) with
  | some path => readFile files workingFolder path
  | none =>
    let project := repository.child projectFile
    if files.contains workingFolder.parts project then ofProject files workingFolder project
    else .ok {}

/-- The configuration in a named file, or that of a repository. -/
def load (files : FileTree) (workingFolder repository : Path) (named : Option Path) :
    Except ConfigError Config :=
  let repository := Path.resolve workingFolder repository
  match named with
  | none => ofRepository files workingFolder repository
  | some path =>
    let path := repository.within path
    if files.contains workingFolder.parts path then readFile files workingFolder path
    else .error (.missing path)

end Config

end PatchReview
