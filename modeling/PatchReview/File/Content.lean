/-
The text in files.

Text is stored as UTF-8.  A file is read strictly, so that an ill-formed sequence is an
error, or leniently, so that the replacement character stands for it.  In text that is
read for its lines every line ending counts as one line feed.
-/
import PatchReview.File.Tree
import PatchReview.Number.Decimal
import PatchReview.Text.Hex
import PatchReview.Text.Lines
import PatchReview.Text.Utf8

namespace PatchReview

namespace Utf8

namespace Flaw

/-- The words for a flaw. -/
def description : Flaw → Text
  | invalidStart => "invalid start byte"
  | invalidContinuation => "invalid continuation byte"
  | unexpectedEnd => "unexpected end of data"

end Flaw

namespace DecodeError

/-- The bytes that cannot be read. -/
def bytes (e : DecodeError) : Text :=
  if e.length = 1 then
    "byte 0x" ++ Text.hexDigits e.byte.toNat 2 ++ " in position " ++ Decimal.ofNat e.position
  else
    "bytes in position " ++ Decimal.ofNat e.position ++ "-"
      ++ Decimal.ofNat (e.position + e.length - 1)

/-- What is said about bytes that cannot be read. -/
def message (e : DecodeError) : Text :=
  "'utf-8' codec can't decode " ++ e.bytes ++ ": " ++ e.flaw.description

end DecodeError

end Utf8

namespace FileTree

/-- The text of a file with unified line endings, ill-formed sequences replaced. -/
def readLossy (tree : FileTree) (workingFolder : List Text) (path : Path) :
    Except FileError Text := do
  let bytes ← tree.read workingFolder path
  return Text.unifyEndings (Utf8.decodeLossy bytes)

end FileTree

end PatchReview
