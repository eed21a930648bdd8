/-
Fingerprints.

Two findings are the same if their fingerprints are.  A finding of a review is known by
its rule, its file, its place and its first line of evidence; a finding from elsewhere
that brings no fingerprint is known by everything it says.  Either is written as one
text, and the fingerprint is the SHA-1 digest of its bytes.
-/
import PatchReview.Digest.Sha1
import PatchReview.Finding.Basic
import PatchReview.Json.Printer
import PatchReview.Text.Utf8

namespace PatchReview

namespace Fingerprint

/-- The digest of a text. -/
def ofText (t : Text) : Text := Sha1.hex (Utf8.encode t)

/-- The text by which a finding of a review is known. -/
def identity (rule file locator firstLine : Text) : Text :=
  rule ++ "\n" ++ file ++ "\n" ++ locator ++ "\n" ++ firstLine

/-- A field of a dense record. -/
def denseField (key value : Text) : Text := Json.stringLiteral false key ++ ":" ++ value

/-- Everything that a finding says, as dense JSON with sorted keys. -/
def record (f : Finding) : Text :=
  let string (key value : Text) : Text := denseField key (Json.stringLiteral false value)
  let evidence := "[" ++ Text.join "," (f.evidence.map (Json.stringLiteral false)) ++ "]"
  "\x7b" ++ Text.join ","
    [string "area" f.area, string "file" f.file, denseField "finding" evidence,
      string "locator" f.locator, string "rule" f.rule, string "severity" f.severity,
      string "suggestion" f.suggestion, string "why" f.why]
    ++ "\x7d"

/-- A small hexadecimal digit. -/
def isHexDigit (c : CodePoint) : Bool :=
  c.isAsciiDigit || (97 ≤ c.toNat && c.toNat ≤ 102)

/-- Whether a text can stand as a fingerprint: forty small hexadecimal digits, behind which one line
feed is let pass. -/
def isFingerprint (t : Text) : Bool :=
  let digits := t.take 40
  let rest := t.drop 40
  digits.length == 40 && digits.all isHexDigit && (rest == [] || rest == [CodePoint.lineFeed])

end Fingerprint

namespace Finding

/-- A finding of a review, with its fingerprint. -/
def make (rule area severity file locator : Text) (evidence : List Text) (why suggestion : Text) :
    Finding :=
  { rule, area, severity, file, locator, evidence, why, suggestion
    fingerprint :=
      Fingerprint.ofText (Fingerprint.identity rule file locator (evidence.head?.getD [])) }

/-- The fingerprint of a finding that brought none. -/
def recordFingerprint (f : Finding) : Text := Fingerprint.ofText (Fingerprint.record f)

end Finding

end PatchReview
