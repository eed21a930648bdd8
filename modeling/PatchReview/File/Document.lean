/-
JSON documents in files.

Rules, boundaries and findings are read from JSON files.  What a document is for is part
of what is said when its file is missing.
-/
import PatchReview.File.Content
import PatchReview.Json.Reader

namespace PatchReview

/-- Why there is no document. -/
inductive DocumentError
  /-- The file of a document of some kind is missing. -/
  | missing (kind : Text) (path : Path)
  | unreadable (error : FileError)
  | undecodable (error : Utf8.DecodeError)
  /-- The text of the file has a fault at a position. -/
  | malformed (path : Path) (text : Text) (fault : Json.Fault) (position : Nat)
  | numeral (error : NumeralError)
deriving DecidableEq, Repr

namespace DocumentError

/-- What is said about an error. -/
def message : DocumentError → Text
  | missing kind path => kind ++ " file does not exist: " ++ path.text
  | unreadable e => e.message
  | undecodable e => e.message
  | malformed path text fault position =>
    "Invalid JSON in " ++ path.text ++ ": " ++ fault.message text position
  | numeral e => e.message

end DocumentError

namespace Json

/-- The value that the text of a file denotes. -/
def ofFileText (path : Path) (t : Text) : Except DocumentError Json :=
  match read t with
  | .ok v => .ok v
  | .error (.malformed fault position) => .error (.malformed path t fault position)
  | .error (.numeral e) => .error (.numeral e)

/-- Reads a document of some kind from a file. -/
def load (files : FileTree) (workingFolder : Path) (kind : Text) (path : Path) :
    Except DocumentError Json := do
  if files.contains workingFolder.parts path then
    let bytes ← (files.read workingFolder.parts path).mapError .unreadable
    let text ← (Utf8.decode bytes).mapError .undecodable
    ofFileText path text.unifyEndings
  else throw (.missing kind path)

end Json

end PatchReview
