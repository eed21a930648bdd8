/-
Reading TOML.

A document is read statement by statement: a header in brackets, an assignment, or
nothing, each with a comment behind it if need be.  Strings stand in single or double
quotes, in three of them if they span lines; only double quotes know escapes.  Control
characters have no place anywhere, tabs and the ends of lines aside.
-/
import PatchReview.Text.Lines
import PatchReview.Toml.Document
import PatchReview.Toml.Scalar

namespace PatchReview

namespace Toml

namespace Reader

open CodePoint (lineFeed carriageReturn)

/-- Something read, and the text after it. -/
abbrev Result (α : Type) := Except ReadError (α × Text)

/-! ### Blanks and comments -/

/-- Whether a code point may not stand in a comment or a string on one line. -/
def isControl (c : CodePoint) : Bool := (c.toNat < 32 && c.toNat != 9) || c.toNat == 127

/-- Whether a code point may not stand in a string that spans lines. -/
def isControlInLines (c : CodePoint) : Bool := isControl c && c != lineFeed

/-- The white space within a line. -/
def isSpace (c : CodePoint) : Bool := c.toNat == 32 || c.toNat == 9

/-- Drops white space within a line. -/
def skipSpace (t : Text) : Text := t.dropWhile isSpace

/-- Drops white space and ends of lines. -/
def skipLines (t : Text) : Text := t.dropWhile fun c => isSpace c || c == lineFeed

/-- Drops a comment up to the end of its line. -/
def skipComment (t : Text) : Except ReadError Text :=
  match Text.dropStart? "#" t with
  | none => .ok t
  | some rest =>
    let comment := Text.before lineFeed rest
    if comment.any isControl then .error .malformed else .ok (rest.drop comment.length)

/-- Drops all that may stand between the items of an array: white space, ends of lines and comments. -/
def skipBetween (inComment : Bool) : Text → Except ReadError Text
  | [] => .ok []
  | c :: t =>
    if c = lineFeed then skipBetween false t
    else if inComment then if isControl c then .error .malformed else skipBetween true t
    else if isSpace c then skipBetween false t
    else if c = '#' then skipBetween true t
    else .ok (c :: t)

/-! ### Strings -/

/-- The text before the first place where `mark` stands, and what follows the mark. -/
def cut? (mark : Text) : Text → Option (Text × Text)
  | [] => none
  | c :: t =>
    match Text.dropStart? mark (c :: t) with
    | some rest => some ([], rest)
    | none => (cut? mark t).map fun (before, rest) => (c :: before, rest)

/-- Up to two more quotes in front of the end of a string belong to it. -/
def closingQuotes (quote : CodePoint) (body rest : Text) : Text × Text :=
  match Text.dropStart? [quote, quote] rest with
  | some rest => (body ++ [quote, quote], rest)
  | none =>
    match Text.dropStart? [quote] rest with
    | some rest => (body ++ [quote], rest)
    | none => (body, rest)

/-- The rest of a string in single quotes. -/
def literal (t : Text) : Result Text :=
  match cut? "'" t with
  | none => .error .malformed
  | some (body, rest) => if body.any isControl then .error .malformed else .ok (body, rest)

/-- A text without the line feed at its start. -/
def dropFeed (t : Text) : Text := (Text.dropStart? [lineFeed] t).getD t

/-- The rest of a string in three single quotes. -/
def literalLines (t : Text) : Result Text :=
  match cut? "'''" (dropFeed t) with
  | none => .error .malformed
  | some (body, rest) =>
    if body.any isControlInLines then .error .malformed else .ok (closingQuotes '\'' body rest)

/-- What an escape of one letter stands for. -/
def escaped? (c : CodePoint) : Option CodePoint :=
  if c = '"' ∨ c = '\\' then some c
  else if c = 'b' then some (Char.ofNat 8)
  else if c = 't' then some (Char.ofNat 9)
  else if c = 'n' then some (Char.ofNat 10)
  else if c = 'f' then some (Char.ofNat 12)
  else if c = 'r' then some (Char.ofNat 13)
  else none

/-- The code point of `n` hexadecimal digits; surrogates are not written so. -/
def hexEscape (n : Nat) (t : Text) : Result CodePoint :=
  let digits := (t.take n).filterMap CodePoint.hexValue?
  if digits.length = n then
    match CodePoint.ofNat? (digits.foldl (fun m d => m * 16 + d) 0) with
    | some c => if c.isSurrogate then .error .malformed else .ok (c, t.drop n)
    | none => .error .malformed
  else .error .malformed

/-- The code point of an escape, behind its backslash. -/
def escape (t : Text) : Result CodePoint :=
  match t with
  | [] => .error .malformed
  | c :: rest =>
    if c = 'u' then hexEscape 4 rest
    else if c = 'U' then hexEscape 8 rest
    else
      match escaped? c with
      | some d => .ok (d, rest)
      | none => .error .malformed

/-- The rest of a string in double quotes; `read` holds what was read so far, last first. -/
def basic : (fuel : Nat) → (read : Text) → Text → Result Text
  | 0, _, _ => .error .malformed
  | _ + 1, _, [] => .error .malformed
  | fuel + 1, read, c :: t =>
    if c = '"' then .ok (read.reverse, t)
    else if c = '\\' then
      match escape t with
      | .error e => .error e
      | .ok (d, t) => basic fuel (d :: read) t
    else if isControl c then .error .malformed
    else basic fuel (c :: read) t

/-- What follows a backslash at the end of a line: white space and ends of lines are dropped.  There
is nothing of the kind when something else stands on the line. -/
def afterLineEnd? (t : Text) : Option Text :=
  match skipSpace t with
  | [] => some []
  | c :: rest => if c = lineFeed then some (skipLines rest) else none

/-- The rest of a string in three double quotes; `read` holds what was read so far, last first. -/
def basicLines : (fuel : Nat) → (read : Text) → Text → Result Text
  | 0, _, _ => .error .malformed
  | _ + 1, _, [] => .error .malformed
  | fuel + 1, read, c :: t =>
    match Text.dropStart? "\"\"\"" (c :: t) with
    | some rest => .ok (closingQuotes '"' read.reverse rest)
    | none =>
      if c = '\\' then
        match afterLineEnd? t with
        | some rest => basicLines fuel read rest
        | none =>
          match escape t with
          | .error e => .error e
          | .ok (d, t) => basicLines fuel (d :: read) t
      else if isControlInLines c then .error .malformed
      else basicLines fuel (c :: read) t

/-- A string, if the text begins with a quote. -/
def string? (t : Text) : Option (Result Text) :=
  match Text.dropStart? "\"\"\"" t with
  | some rest => some (basicLines (rest.length + 1) [] (dropFeed rest))
  | none =>
    match Text.dropStart? "'''" t with
    | some rest => some (literalLines rest)
    | none =>
      match Text.dropStart? "\"" t with
      | some rest => some (basic (rest.length + 1) [] rest)
      | none => (Text.dropStart? "'" t).map literal

/-! ### Keys -/

/-- What a name may consist of that stands without quotes. -/
def isBare (c : CodePoint) : Bool :=
  c.isAsciiLetter || c.isAsciiDigit || c == CodePoint.ofChar '-' || c == CodePoint.ofChar '_'

/-- A name of a key: a string on one line, or a bare word. -/
def keyName (t : Text) : Result Text :=
  match Text.dropStart? "\"" t with
  | some rest => basic (rest.length + 1) [] rest
  | none =>
    match Text.dropStart? "'" t with
    | some rest => literal rest
    | none =>
      let name := t.takeWhile isBare
      if name.isEmpty then .error .malformed else .ok (name, t.drop name.length)

/-- A key of names with dots between them; `read` holds the names so far, last first. -/
def keyNames : (fuel : Nat) → (read : List Text) → Text → Result TomlKey
  | 0, _, _ => .error .malformed
  | fuel + 1, read, t =>
    match keyName t with
    | .error e => .error e
    | .ok (name, t) =>
      let t := skipSpace t
      match Text.dropStart? "." t with
      | none => .ok ((name :: read).reverse, t)
      | some rest => keyNames fuel (name :: read) (skipSpace rest)

/-- A key. -/
def key (t : Text) : Result TomlKey := keyNames (t.length + 1) [] t

/-! ### Values -/

mutual

/-- Reads a value.  The first argument bounds the nesting and the number of items; the length of the
text is enough. -/
def value : (fuel : Nat) → Text → Result Toml
  | 0, _ => .error .malformed
  | fuel + 1, t =>
    match string? t with
    | some (.ok (s, rest)) => .ok (.string s, rest)
    | some (.error e) => .error e
    | none =>
      match Text.dropStart? "true" t, Text.dropStart? "false" t with
      | some rest, _ => .ok (.boolean true, rest)
      | _, some rest => .ok (.boolean false, rest)
      | none, none =>
        match Text.dropStart? "[" t, Text.dropStart? "\x7b" t with
        | some rest, _ => arrayItems fuel [] rest
        | _, some rest =>
          let rest := skipSpace rest
          match Text.dropStart? "\x7d" rest with
          | some rest => .ok (.table [], rest)
          | none => tableFields fuel {} rest
        | none, none => Scalar.read t

/-- Reads the items of an array up to its end; `read` holds the items so far, last first. -/
def arrayItems : (fuel : Nat) → (read : List Toml) → Text → Result Toml
  | 0, _, _ => .error .malformed
  | fuel + 1, read, t =>
    match skipBetween false t with
    | .error e => .error e
    | .ok t =>
      match Text.dropStart? "]" t with
      | some rest => .ok (.array read.reverse, rest)
      | none =>
        match value fuel t with
        | .error e => .error e
        | .ok (v, t) =>
          match skipBetween false t with
          | .error e => .error e
          | .ok t =>
            match Text.dropStart? "]" t, Text.dropStart? "," t with
            | some rest, _ => .ok (.array (v :: read).reverse, rest)
            | _, some rest => arrayItems fuel (v :: read) rest
            | none, none => .error .malformed

/-- Reads the fields of an inline table up to its end. -/
def tableFields : (fuel : Nat) → (read : TomlDocument) → Text → Result Toml
  | 0, _, _ => .error .malformed
  | fuel + 1, read, t =>
    match assignment fuel t with
    | .error e => .error e
    | .ok ((k, v), t) =>
      match read.assign k v with
      | none => .error .malformed
      | some read =>
        let t := skipSpace t
        match Text.dropStart? "\x7d" t, Text.dropStart? "," t with
        | some rest, _ => .ok (.table read.root, rest)
        | _, some rest => tableFields fuel read (skipSpace rest)
        | none, none => .error .malformed

/-- Reads a key, the sign for assignment and a value. -/
def assignment : (fuel : Nat) → Text → Result (TomlKey × Toml)
  | 0, _ => .error .malformed
  | fuel + 1, t =>
    match key t with
    | .error e => .error e
    | .ok (k, t) =>
      match Text.dropStart? "=" t with
      | none => .error .malformed
      | some rest =>
        match value fuel (skipSpace rest) with
        | .error e => .error e
        | .ok (v, t) => .ok ((k, v), t)

end

/-! ### Statements -/

/-- Reads the rest of a header up to `closing`. -/
def headerKey (closing t : Text) : Result TomlKey :=
  match key (skipSpace t) with
  | .error e => .error e
  | .ok (k, t) =>
    match Text.dropStart? closing t with
    | none => .error .malformed
    | some rest => .ok (k, rest)

/-- A document after a statement that fits it, and the text after the statement. -/
def grown (doc : Option TomlDocument) (rest : Text) : Result TomlDocument :=
  match doc with
  | none => .error .malformed
  | some doc => .ok (doc, rest)

/-- Reads one statement, which may be nothing. -/
def statement (doc : TomlDocument) (t : Text) : Result TomlDocument :=
  match t with
  | [] => .ok (doc, t)
  | c :: rest =>
    if c = lineFeed ∨ c = '#' then .ok (doc, t)
    else if c = '[' then
      match Text.dropStart? "[" rest with
      | some rest =>
        match headerKey "]]" rest with
        | .error e => .error e
        | .ok (k, rest) => grown (doc.openItem k) rest
      | none =>
        match headerKey "]" rest with
        | .error e => .error e
        | .ok (k, rest) => grown (doc.openTable k) rest
    else
      match assignment (t.length + 1) t with
      | .error e => .error e
      | .ok ((k, v), rest) => grown (doc.assign k v) rest

/-- Reads so many lines at most. -/
def statements : (fuel : Nat) → TomlDocument → Text → Except ReadError TomlDocument
  | 0, _, _ => .error .malformed
  | fuel + 1, doc, t =>
    match statement doc (skipSpace t) with
    | .error e => .error e
    | .ok (doc, rest) =>
      match skipComment (skipSpace rest) with
      | .error e => .error e
      | .ok [] => .ok doc
      | .ok (c :: rest) => if c = lineFeed then statements fuel doc rest else .error .malformed

/-- A line feed alone ends a line as well as one behind a carriage return. -/
def plainEndings : Text → Text
  | [] => []
  | c :: t =>
    if c = carriageReturn ∧ t.head? = some lineFeed then plainEndings t
    else c :: plainEndings t

end Reader

/-- The fields of the document that a text denotes. -/
def read (t : Text) : Except ReadError Fields :=
  let t := Reader.plainEndings t
  (Reader.statements (t.length + 1) {} t).map TomlDocument.root

end Toml

end PatchReview
